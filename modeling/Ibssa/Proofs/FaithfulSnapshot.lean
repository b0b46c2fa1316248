import Ibssa.Proofs.PkeyLayout

/-!
# A snapshot is faithful to its subnet

The tables of a snapshot are logs of lists read off the subnet, and a log with
distinct keys is a table: every entry under its key, the offsets dense. So what
is left to see is that the keys are distinct and are the ones they should be.

For nodes and GUIDs this is the ordering of OpenSM's own maps. For ports and
links it is the LIDs: `placed` lists the physical ports that get a record, each
with the LID it is filed under, and after a clean sweep that LID is the end
port's own, whatever LID the loop carried along before. A key names a LID and a
port number, so two keys can only agree within one switch, and there the
numbers differ.
-/

namespace Ibssa

open Keyed ByteOrder Machine

/-! ## The subnet after a clean sweep -/

/-- The switches among the nodes. -/
def OsmSubn.switches (s : OsmSubn) : List Nat :=
  (s.nodeGuidTbl.items.map Prod.snd).filter fun n => (s.deref n).isSwitch

def onSwitch (s : OsmSubn) (p : OsmPort) : Bool := (s.nodeOf p.pPhysp).isSwitch

/-- The base LID of an end port: that of port 0 for a switch. -/
def endLid (s : OsmSubn) (p : OsmPort) : UInt16 :=
  if onSwitch s p then ntohs ((s.nodeOf p.pPhysp).baseLid 0)
  else ntohs (s.physp p.pPhysp).baseLid

/-- OpenSM's tables are keyed by the GUIDs of their elements; each switch has a
valid port 0 and one port object; the physical ports of a switch report their
own numbers; and the base LIDs of the end ports are distinct. -/
structure CleanSweep (s : OsmSubn) : Prop where
  nodeKeyed : ∀ q ∈ s.nodeGuidTbl.items, (s.deref q.2).nodeGuid = q.1
  portKeyed : ∀ q ∈ s.portGuidTbl.items, (s.physp q.2.pPhysp).portGuid = q.1
  port0 : ∀ n ∈ s.switches, (s.deref n).hasPort0 = true
  onePort : ((s.ports.filter (onSwitch s)).map fun p => p.pPhysp.node).Perm s.switches
  numbered : ∀ n ∈ s.switches, ∀ i < (s.deref n).physpTblSize.toNat,
    (s.physp ⟨n, i⟩).valid = true → (s.physp ⟨n, i⟩).portNum.toNat = i
  distinctLids : (s.ports.map (endLid s)).Nodup

/-- The physical ports that a snapshot should have a record of, each with its
key and its LID: the valid ports of every switch, and every other end port. -/
inductive PortElem (s : OsmSubn) : UInt64 → UInt16 → PhyspRef → Prop
  | switchPort {n i : Nat} (hn : n ∈ s.switches) (hi : i < (s.deref n).physpTblSize.toNat)
      (hvalid : (s.physp ⟨n, i⟩).valid = true) :
      PortElem s (epRecGenKey (ntohs ((s.deref n).baseLid 0)) (UInt16.ofNat i))
        (ntohs ((s.deref n).baseLid 0)) ⟨n, i⟩
  | endPort {p : OsmPort} (hp : p ∈ s.ports) (hsw : onSwitch s p = false) :
      PortElem s
        (epRecGenKey (ntohs (s.physp p.pPhysp).baseLid) (s.physp p.pPhysp).portNum.toUInt16)
        (ntohs (s.physp p.pPhysp).baseLid) p.pPhysp

/-- A port record without what it says of pkeys. -/
def EpPortTblRec.withoutPkeys (r : EpPortTblRec) : EpPortTblRec :=
  { r with pkeyTblOffset := htonll 0, pkeyTblSize := htons 0 }

/-- The four tables have a record for every element and no others, each the one
that the element's `rec_init` builds, at offsets without gaps. -/
structure FaithfulSnapshot (s : OsmSubn) (db : SsaDbExtract) : Prop where
  nodeKeys : db.epNodeTbl.keys = s.nodeGuidTbl.keys
  guidToLidKeys : db.epGuidToLidTbl.keys = s.portGuidTbl.keys
  portKeys : ∀ k, k ∈ db.epPortTbl.keys ↔ ∃ lid r, PortElem s k lid r
  linkKeys : ∀ k, k ∈ db.epLinkTbl.keys ↔
    ∃ lid r, PortElem s k lid r ∧ (s.physp r).remote.isSome = true
  nodeRec : ∀ q ∈ s.nodeGuidTbl.items,
    view db.epNodeTbl db.pNodeTbl q.1 = some (epNodeTblRecInit (s.deref q.2))
  guidToLidRec : ∀ q ∈ s.portGuidTbl.items,
    view db.epGuidToLidTbl db.pGuidToLidTbl q.1 = some (epGuidToLidTblRecInit s q.2)
  portRec : ∀ k lid r, PortElem s k lid r →
    (view db.epPortTbl db.pPortTbl k).map EpPortTblRec.withoutPkeys
      = some { (epPortTblRecInit s r).withoutPkeys with portLid := htons lid }
  linkRec : ∀ k lid r pRemote, PortElem s k lid r → (s.physp r).remote = some pRemote →
    view db.epLinkTbl db.pLinkTbl k = some (epLinkTblRecInit s r pRemote)
  nodeDense : Dense db.epNodeTbl
  guidToLidDense : Dense db.epGuidToLidTbl
  portDense : Dense db.epPortTbl
  linkDense : Dense db.epLinkTbl

/-! ## The physical ports with a record -/

/-- The physical ports that the loop writes a record of, each with its LID. -/
def placed (s : OsmSubn) (ps : List OsmPort) : List (UInt16 × PhyspRef) :=
  ps.flatMap fun p => (endPhysps s p).map fun r => (endLid s p, r)

def placedKey (s : OsmSubn) (q : UInt16 × PhyspRef) : UInt64 := physpKey s q.1 q.2

section Placed

variable {s : OsmSubn}

theorem endLid_of_switch {p : OsmPort} (h : onSwitch s p = true) :
    endLid s p = ntohs ((s.nodeOf p.pPhysp).baseLid 0) := by
  rw [endLid, if_pos h]

theorem endLid_of_endPort {p : OsmPort} (h : onSwitch s p = false) :
    endLid s p = ntohs (s.physp p.pPhysp).baseLid := by
  rw [endLid, if_neg (by rw [h]; decide)]

theorem placed_cons (p : OsmPort) (ps : List OsmPort) :
    placed s (p :: ps) = (endPhysps s p).map (fun r => (endLid s p, r)) ++ placed s ps :=
  List.flatMap_cons

theorem withoutPkeys_portRec (lid : UInt16) (base cur : Nat) (r : PhyspRef) :
    (portRec s lid base cur r).withoutPkeys = plainPortRec s lid r := by
  rw [portRec]
  split <;> rfl

/-- With a port 0 the LID does not depend on what the loop carried along. -/
theorem lidOf_eq_endLid {p : OsmPort} (h : onSwitch s p = true →
    (s.nodeOf p.pPhysp).hasPort0 = true) (c : PortCursor) : lidOf s c p = endLid s p := by
  rw [lidOf, endLid, onSwitch]
  cases hsw : (s.nodeOf p.pPhysp).isSwitch with
  | true => rw [if_pos rfl, if_pos rfl, if_pos (h hsw)]
  | false => rfl

theorem portRun_eq_placed (ps : List OsmPort) (c : PortCursor)
    (h : ∀ p ∈ ps, onSwitch s p = true → (s.nodeOf p.pPhysp).hasPort0 = true) :
    (portRun s c ps).map (fun e => (e.1, e.2.withoutPkeys))
      = (placed s ps).map fun q => (placedKey s q, plainPortRec s q.1 q.2) := by
  induction ps generalizing c with
  | nil => rfl
  | cons p ps ih =>
      have hrest := ih (c.after s p) fun q hq => h q (List.mem_cons_of_mem p hq)
      rw [portRun, List.map_append, hrest, placed_cons, List.map_append, portEntries,
        lidOf_eq_endLid (h p List.mem_cons_self), List.map_map, List.map_map]
      congr 1
      refine List.map_congr_left ?_
      intro r _
      simp only [Function.comp_apply, portEntry, withoutPkeys_portRec]
      rfl

/-- A port without a peer has no entry, so for the links it is enough that a
switch with a linked port has a port 0. -/
theorem linkRun_eq_placed (ps : List OsmPort) (c : PortCursor)
    (h : ∀ p ∈ ps, onSwitch s p = true → ∀ r ∈ endPhysps s p,
      (s.physp r).remote.isSome = true → (s.nodeOf p.pPhysp).hasPort0 = true) :
    linkRun s c ps = (placed s ps).filterMap fun q => linkEntry s q.1 q.2 := by
  induction ps generalizing c with
  | nil => rfl
  | cons p ps ih =>
      have hrest := ih (c.after s p) fun q hq => h q (List.mem_cons_of_mem p hq)
      have hhead : linkEntries s c p
          = (endPhysps s p).filterMap fun r => linkEntry s (endLid s p) r := by
        refine List.filterMap_congr fun r hr => ?_
        cases hrem : (s.physp r).remote with
        | none => rw [linkEntry, linkEntry, hrem, Option.map_none, Option.map_none]
        | some pRemote =>
            rw [lidOf_eq_endLid fun hsw => h p List.mem_cons_self hsw r hr (by rw [hrem]; rfl)]
      rw [linkRun, hrest, placed_cons, List.filterMap_append, hhead, List.filterMap_map]
      rfl

theorem keys_portRun (ps : List OsmPort) (c : PortCursor)
    (h : ∀ p ∈ ps, onSwitch s p = true → (s.nodeOf p.pPhysp).hasPort0 = true) :
    (portRun s c ps).map Prod.fst = (placed s ps).map (placedKey s) := by
  have hmap := congrArg (List.map Prod.fst) (portRun_eq_placed ps c h)
  rw [List.map_map, List.map_map] at hmap
  exact hmap

theorem mem_validPhysps {n : Nat} {l : List Nat} {r : PhyspRef} :
    r ∈ validPhysps s n l ↔ ∃ i ∈ l, (s.physp ⟨n, i⟩).valid = true ∧ (⟨n, i⟩ : PhyspRef) = r := by
  rw [validPhysps, List.mem_map]
  constructor
  · rintro ⟨i, hi, rfl⟩
    obtain ⟨hl, hvalid⟩ := List.mem_filter.mp hi
    exact ⟨i, hl, hvalid, rfl⟩
  · rintro ⟨i, hl, hvalid, rfl⟩
    exact ⟨i, List.mem_filter.mpr ⟨hl, hvalid⟩, rfl⟩

/-- A port that reports its index has the key that the index makes. -/
theorem placedKey_of_num {n i : Nat} (hnum : (s.physp ⟨n, i⟩).portNum.toNat = i)
    (lid : UInt16) : placedKey s (lid, ⟨n, i⟩) = epRecGenKey lid (UInt16.ofNat i) := by
  rw [placedKey, physpKey]
  congr 1
  refine UInt16.toNat_inj.mp ?_
  have hlt : (s.physp ⟨n, i⟩).portNum.toNat < 2 ^ 8 := (s.physp ⟨n, i⟩).portNum.toNat_lt
  rw [UInt8.toNat_toUInt16, UInt16.toNat_ofNat', hnum, Nat.mod_eq_of_lt (by omega)]

/-- Distinct LIDs, and distinct numbers on a switch, make distinct keys. -/
theorem placedKeys_nodup {ps : List OsmPort} (hlids : (ps.map (endLid s)).Nodup)
    (hnum : ∀ p ∈ ps, onSwitch s p = true → ∀ i < (s.nodeOf p.pPhysp).physpTblSize.toNat,
      (s.physp ⟨p.pPhysp.node, i⟩).valid = true →
      (s.physp ⟨p.pPhysp.node, i⟩).portNum.toNat = i) :
    ((placed s ps).map (placedKey s)).Nodup := by
  rw [placed, List.map_flatMap, List.nodup_flatMap]
  constructor
  · intro p hp
    rw [List.map_map]
    cases hsw : onSwitch s p with
    | true =>
        rw [endPhysps_of_switch hsw, validPhysps, List.map_map]
        refine (List.nodup_map_iff_inj_on (List.nodup_range.filter _)).mpr ?_
        intro i hi j hj heq
        obtain ⟨hi, hvalid⟩ := List.mem_filter.mp hi
        obtain ⟨hj, hvalid'⟩ := List.mem_filter.mp hj
        have hi' : i < (s.nodeOf p.pPhysp).physpTblSize.toNat := List.mem_range.mp hi
        have hj' : j < (s.nodeOf p.pPhysp).physpTblSize.toNat := List.mem_range.mp hj
        have hkeys : placedKey s (endLid s p, ⟨p.pPhysp.node, i⟩)
            = placedKey s (endLid s p, ⟨p.pPhysp.node, j⟩) := heq
        rw [placedKey_of_num (hnum p hp hsw i hi' hvalid),
          placedKey_of_num (hnum p hp hsw j hj' hvalid')] at hkeys
        have hij := congrArg UInt16.toNat (epRecGenKey_inj hkeys).2
        have hsize : (s.nodeOf p.pPhysp).physpTblSize.toNat < 2 ^ 16 :=
          (s.nodeOf p.pPhysp).physpTblSize.toNat_lt
        rw [UInt16.toNat_ofNat', UInt16.toNat_ofNat'] at hij
        omega
    | false =>
        rw [endPhysps_of_endPort hsw]
        exact List.nodup_singleton _
  · refine (List.pairwise_map.mp hlids).imp ?_
    intro p p' hne k hk hk'
    obtain ⟨q, hq, rfl⟩ := List.mem_map.mp hk
    obtain ⟨q', hq', heq⟩ := List.mem_map.mp hk'
    obtain ⟨r, _, rfl⟩ := List.mem_map.mp hq
    obtain ⟨r', _, rfl⟩ := List.mem_map.mp hq'
    exact hne (epRecGenKey_inj heq).1.symm

end Placed

section CleanSweep

variable {s : OsmSubn}

theorem CleanSweep.mem_switches (h : CleanSweep s) {p : OsmPort} (hp : p ∈ s.ports)
    (hsw : onSwitch s p = true) : p.pPhysp.node ∈ s.switches :=
  h.onePort.mem_iff.mp (List.mem_map_of_mem (List.mem_filter.mpr ⟨hp, hsw⟩))

theorem CleanSweep.hasPort0 (h : CleanSweep s) {p : OsmPort} (hp : p ∈ s.ports)
    (hsw : onSwitch s p = true) : (s.nodeOf p.pPhysp).hasPort0 = true :=
  h.port0 _ (h.mem_switches hp hsw)

/-- A valid port of a switch has the key that its index makes. -/
theorem CleanSweep.placedKey_switch (h : CleanSweep s) {n i : Nat} (hn : n ∈ s.switches)
    (hi : i < (s.deref n).physpTblSize.toNat) (hvalid : (s.physp ⟨n, i⟩).valid = true)
    (lid : UInt16) : placedKey s (lid, ⟨n, i⟩) = epRecGenKey lid (UInt16.ofNat i) :=
  placedKey_of_num (h.numbered n hn i hi hvalid) lid

/-- The elements are the physical ports that the loop visits. -/
theorem CleanSweep.portElem_iff (h : CleanSweep s) {k : UInt64} {lid : UInt16} {r : PhyspRef} :
    PortElem s k lid r ↔ (lid, r) ∈ placed s s.ports ∧ placedKey s (lid, r) = k := by
  constructor
  · rintro (⟨hn, hi, hvalid⟩ | ⟨hp, hsw⟩)
    · next n i =>
        obtain ⟨p, hp, rfl⟩ := List.mem_map.mp (h.onePort.mem_iff.mpr hn)
        obtain ⟨hp, hsw⟩ := List.mem_filter.mp hp
        have hr : (⟨p.pPhysp.node, i⟩ : PhyspRef) ∈ endPhysps s p := by
          rw [endPhysps_of_switch hsw]
          exact mem_validPhysps.mpr ⟨i, List.mem_range.mpr hi, hvalid, rfl⟩
        refine ⟨List.mem_flatMap.mpr ⟨p, hp, List.mem_map.mpr ⟨_, hr, ?_⟩⟩,
          h.placedKey_switch hn hi hvalid _⟩
        rw [endLid_of_switch hsw]
        rfl
    · next p =>
        have hr : p.pPhysp ∈ endPhysps s p := by
          rw [endPhysps_of_endPort hsw]
          exact List.mem_singleton_self _
        refine ⟨List.mem_flatMap.mpr ⟨p, hp, List.mem_map.mpr ⟨_, hr, ?_⟩⟩, rfl⟩
        rw [endLid_of_endPort hsw]
  · rintro ⟨hmem, rfl⟩
    obtain ⟨p, hp, hr⟩ := List.mem_flatMap.mp hmem
    obtain ⟨r', hr', heq⟩ := List.mem_map.mp hr
    obtain ⟨rfl, rfl⟩ := Prod.mk.inj heq
    cases hsw : onSwitch s p with
    | true =>
        rw [endPhysps_of_switch hsw] at hr'
        obtain ⟨i, hi, hvalid, rfl⟩ := mem_validPhysps.mp hr'
        have hn := h.mem_switches hp hsw
        rw [h.placedKey_switch hn (List.mem_range.mp hi) hvalid, endLid_of_switch hsw]
        exact PortElem.switchPort hn (List.mem_range.mp hi) hvalid
    | false =>
        rw [endPhysps_of_endPort hsw] at hr'
        obtain rfl := List.mem_singleton.mp hr'
        rw [endLid_of_endPort hsw]
        exact PortElem.endPort hp hsw

theorem CleanSweep.keys_nodup (h : CleanSweep s) :
    ((placed s s.ports).map (placedKey s)).Nodup :=
  placedKeys_nodup h.distinctLids fun _ hp hsw i hi hvalid =>
    h.numbered _ (h.mem_switches hp hsw) i hi hvalid

end CleanSweep

/-! ## The four tables -/

section Tables

variable {s : OsmSubn}

/-- A table that is filled in the order of one of OpenSM's own maps, under the
same keys. -/
theorem table_of_items {V W : Type} {m' : OrdMap UInt64 W} {entry : W → UInt64 × V} {m : EpMap}
    {b₀ b : Buf V} (h : Stored ((m'.items.map Prod.snd).map entry) m b₀ b)
    (hkeyed : ∀ q ∈ m'.items, (entry q.2).1 = q.1) :
    m.keys = m'.keys ∧ (∀ q ∈ m'.items, view m b q.1 = some (entry q.2).2) ∧ Dense m := by
  have hkeys : ((m'.items.map Prod.snd).map entry).map Prod.fst = m'.keys := by
    rw [List.map_map, List.map_map, OrdMap.keys]
    exact List.map_congr_left hkeyed
  have hnodup : (((m'.items.map Prod.snd).map entry).map Prod.fst).Nodup := by
    rw [hkeys]
    exact m'.keys_nodup
  refine ⟨OrdMap.keys_eq fun k => by rw [h.mem_keys, hkeys], ?_, h.dense hnodup⟩
  intro q hq
  have hview := h.view_of_mem hnodup
    (List.mem_map_of_mem (f := entry) (List.mem_map_of_mem (f := Prod.snd) hq))
  rw [hkeyed q hq] at hview
  exact hview

theorem fst_linkEntry {lid : UInt16} {r : PhyspRef} {e : UInt64 × EpLinkTblRec}
    (h : linkEntry s lid r = some e) : e.1 = physpKey s lid r := by
  obtain ⟨pRemote, _, rfl⟩ := Option.map_eq_some_iff.mp h
  rfl

/-- The link table's keys are some of the port table's, in the same order. -/
theorem keys_links_sublist (l : List (UInt16 × PhyspRef)) :
    ((l.filterMap fun q => linkEntry s q.1 q.2).map Prod.fst).Sublist (l.map (placedKey s)) := by
  induction l with
  | nil => exact List.Sublist.refl _
  | cons q l ih =>
      rw [List.filterMap_cons, List.map_cons]
      cases hlink : linkEntry s q.1 q.2 with
      | none => exact ih.cons _
      | some e =>
          rw [List.map_cons, fst_linkEntry hlink]
          exact ih.cons_cons _

theorem CleanSweep.portTable (h : CleanSweep s) {c : PortCursor} {m : EpMap}
    {b₀ b : Buf EpPortTblRec} (hport : Stored (portRun s c s.ports) m b₀ b) :
    (∀ k, k ∈ m.keys ↔ ∃ lid r, PortElem s k lid r) ∧
      (∀ k lid r, PortElem s k lid r →
        (view m b k).map EpPortTblRec.withoutPkeys
          = some { (epPortTblRecInit s r).withoutPkeys with portLid := htons lid }) ∧
      Dense m := by
  have hport0 : ∀ p ∈ s.ports, onSwitch s p = true → (s.nodeOf p.pPhysp).hasPort0 = true :=
    fun p hp hsw => h.hasPort0 hp hsw
  have hkeys := keys_portRun s.ports c hport0
  have hnodup : ((portRun s c s.ports).map Prod.fst).Nodup := by
    rw [hkeys]
    exact h.keys_nodup
  refine ⟨?_, ?_, hport.dense hnodup⟩
  · intro k
    rw [hport.mem_keys, hkeys, List.mem_map]
    constructor
    · rintro ⟨⟨lid, r⟩, hq, hk⟩
      exact ⟨lid, r, h.portElem_iff.mpr ⟨hq, hk⟩⟩
    · rintro ⟨lid, r, helem⟩
      exact ⟨(lid, r), h.portElem_iff.mp helem⟩
  · intro k lid r helem
    obtain ⟨hq, rfl⟩ := h.portElem_iff.mp helem
    have hmem : (placedKey s (lid, r), plainPortRec s lid r)
        ∈ (portRun s c s.ports).map fun e => (e.1, e.2.withoutPkeys) := by
      rw [portRun_eq_placed s.ports c hport0]
      exact List.mem_map_of_mem (f := fun q => (placedKey s q, plainPortRec s q.1 q.2)) hq
    obtain ⟨e, he, heq⟩ := List.mem_map.mp hmem
    obtain ⟨hkey, hrec⟩ := Prod.mk.inj heq
    have hview := hport.view_of_mem hnodup he
    rw [hkey] at hview
    show (view _ _ (placedKey s (lid, r))).map EpPortTblRec.withoutPkeys = _
    rw [hview, Option.map_some, hrec]
    rfl

theorem CleanSweep.linkTable (h : CleanSweep s) {c : PortCursor} {m : EpMap}
    {b₀ b : Buf EpLinkTblRec} (hlink : Stored (linkRun s c s.ports) m b₀ b) :
    (∀ k, k ∈ m.keys ↔ ∃ lid r, PortElem s k lid r ∧ (s.physp r).remote.isSome = true) ∧
      (∀ k lid r pRemote, PortElem s k lid r → (s.physp r).remote = some pRemote →
        view m b k = some (epLinkTblRecInit s r pRemote)) ∧
      Dense m := by
  rw [linkRun_eq_placed s.ports c fun p hp hsw _ _ _ => h.hasPort0 hp hsw] at hlink
  have hnodup := h.keys_nodup.sublist (keys_links_sublist (placed s s.ports))
  -- the entry of a port with a peer
  have hentry : ∀ {lid : UInt16} {r pRemote : PhyspRef}, (lid, r) ∈ placed s s.ports →
      (s.physp r).remote = some pRemote →
      (placedKey s (lid, r), epLinkTblRecInit s r pRemote)
        ∈ (placed s s.ports).filterMap fun q => linkEntry s q.1 q.2 := by
    intro lid r pRemote hq hrem
    refine List.mem_filterMap.mpr ⟨(lid, r), hq, ?_⟩
    rw [linkEntry, hrem, Option.map_some]
    rfl
  refine ⟨?_, ?_, hlink.dense hnodup⟩
  · intro k
    rw [hlink.mem_keys, List.mem_map]
    constructor
    · rintro ⟨e, he, rfl⟩
      obtain ⟨⟨lid, r⟩, hq, hlinked⟩ := List.mem_filterMap.mp he
      have hkey := fst_linkEntry hlinked
      refine ⟨lid, r, h.portElem_iff.mpr ⟨hq, hkey.symm⟩, ?_⟩
      obtain ⟨pRemote, hrem, _⟩ := Option.map_eq_some_iff.mp hlinked
      exact Option.isSome_iff_exists.mpr ⟨pRemote, hrem⟩
    · rintro ⟨lid, r, helem, hrem⟩
      obtain ⟨hq, hk⟩ := h.portElem_iff.mp helem
      obtain ⟨pRemote, hrem⟩ := Option.isSome_iff_exists.mp hrem
      exact ⟨_, hentry hq hrem, hk⟩
  · intro k lid r pRemote helem hrem
    obtain ⟨hq, rfl⟩ := h.portElem_iff.mp helem
    exact hlink.view_of_mem hnodup (hentry hq hrem)

end Tables

/-- After a clean sweep, an extraction into a fresh database takes a faithful
snapshot. -/
theorem faithfulSnapshot_ssaDbExtract (mem : Mem) (firstTimeSubnetUp : Bool)
    {ssaDb : SsaDatabase} (hfresh : ssaDb.pDumpDb = ssaDbExtractInit) {s : OsmSubn}
    (h : CleanSweep s) :
    FaithfulSnapshot s (ssaDbExtract mem firstTimeSubnetUp ssaDb s).pDumpDb := by
  have hlogs := snapshotLogs_ssaDbExtract mem firstTimeSubnetUp s hfresh
  have hnodes : s.nodes.map nodeEntry
      = (s.nodeGuidTbl.items.map Prod.snd).map fun n => nodeEntry (s.deref n) := by
    rw [OsmSubn.nodes, List.map_map, List.map_map]
    rfl
  have hnode := hlogs.node
  rw [hnodes] at hnode
  obtain ⟨hnodeKeys, hnodeRec, hnodeDense⟩ := table_of_items hnode h.nodeKeyed
  obtain ⟨hguidKeys, hguidRec, hguidDense⟩ := table_of_items hlogs.guidToLid h.portKeyed
  obtain ⟨hportKeys, hportRec, hportDense⟩ := h.portTable hlogs.port
  obtain ⟨hlinkKeys, hlinkRec, hlinkDense⟩ := h.linkTable hlogs.link
  exact ⟨hnodeKeys, hguidKeys, hportKeys, hlinkKeys, hnodeRec, hguidRec, hportRec, hlinkRec,
    hnodeDense, hguidDense, hportDense, hlinkDense⟩

theorem cleanSweep_smallFabric : CleanSweep smallFabric :=
  ⟨by decide, by decide, by decide, by decide, by decide, by decide⟩

theorem faithfulSnapshot_smallFabric :
    FaithfulSnapshot smallFabric (ssaDbExtract default true ssaDatabaseInit smallFabric).pDumpDb :=
  faithfulSnapshot_ssaDbExtract default true rfl cleanSweep_smallFabric

end Ibssa
