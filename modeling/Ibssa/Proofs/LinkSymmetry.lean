import Ibssa.Proofs.FaithfulSnapshot

/-!
# A snapshot has every link in both directions

The two records of a link are written in different rounds of the port loop, by
different branches, and each names both ends. They agree because the loop's
branches leave the naming to `ep_link_tbl_rec_init`, and `linkEnd` names an end
by what it is and not by the direction it is looked at from. So the records of
a port and of its peer are each other's reverse, and the only question is
whether both are there.

A record can be missing for three reasons. The port is never visited, if it is
neither a valid port of a switch with a port object nor an end port. Or its key
is taken: keys are made of an end port's LID and a port number, so this needs
two end ports with one LID or two ports of a switch with one number. Or the LID
is not the port's at all, if its switch has no port 0 to take one from. The
hypotheses exclude the three, and nothing more: a switch without a port 0 does
no harm as long as nothing is plugged into it.
-/

namespace Ibssa

open Keyed ByteOrder Machine

/-- A physical port of the subnet, as `osm_node_get_physp_ptr` answers it. -/
def OsmSubn.IsPhysp (s : OsmSubn) (r : PhyspRef) : Prop :=
  r.port < (s.nodeOf r).physpTblSize.toNat ∧ (s.physp r).valid = true

instance (s : OsmSubn) (r : PhyspRef) : Decidable (s.IsPhysp r) :=
  inferInstanceAs (Decidable (_ ∧ _))

/-- Peers are mutual; a linked physical port belongs to a switch with a valid
port 0, or it is that of a port object; every switch has a port object; physical
ports report their own numbers; and the base LIDs of the end ports are
distinct, which leaves a switch with one port object. -/
structure LinkedFabric (s : OsmSubn) : Prop where
  endPhysp : ∀ p ∈ s.ports, onSwitch s p = false → s.IsPhysp p.pPhysp
  peers : ∀ r r', s.IsPhysp r → (s.physp r).remote = some r' →
    s.IsPhysp r' ∧ (s.physp r').remote = some r
  linked : ∀ r, s.IsPhysp r → (s.physp r).remote.isSome = true →
    (r.node ∈ s.switches ∧ (s.nodeOf r).hasPort0 = true) ∨
      ((s.nodeOf r).isSwitch = false ∧ ∃ p ∈ s.ports, p.pPhysp = r)
  switchPort : ∀ n ∈ s.switches, ∃ p ∈ s.ports, p.pPhysp.node = n
  numbered : ∀ r, s.IsPhysp r → (s.physp r).portNum.toNat = r.port
  distinctLids : (s.ports.map (endLid s)).Nodup

/-- Two link records are one link in its two directions. -/
structure EpLinkTblRec.Reverse (rec rec' : EpLinkTblRec) : Prop where
  fromLid : rec'.fromLid = rec.toLid
  fromPortNum : rec'.fromPortNum = rec.toPortNum
  toLid : rec'.toLid = rec.fromLid
  toPortNum : rec'.toPortNum = rec.fromPortNum

/-- Every link record that the map reaches has its reverse, which it reaches
too. -/
def LinkSymmetric (db : SsaDbExtract) : Prop :=
  ∀ k rec, view db.epLinkTbl db.pLinkTbl k = some rec →
    ∃ k' rec', view db.epLinkTbl db.pLinkTbl k' = some rec' ∧ rec.Reverse rec'

section Linked

variable {s : OsmSubn}

/-- An end of a link is named alike from both sides. -/
theorem reverse_epLinkTblRecInit (s : OsmSubn) (r r' : PhyspRef) :
    (epLinkTblRecInit s r r').Reverse (epLinkTblRecInit s r' r) :=
  ⟨rfl, rfl, rfl, rfl⟩

/-- What the loop places is a physical port. -/
theorem LinkedFabric.isPhysp (h : LinkedFabric s) {lid : UInt16} {r : PhyspRef}
    (hr : (lid, r) ∈ placed s s.ports) : s.IsPhysp r := by
  obtain ⟨p, hp, hmem⟩ := List.mem_flatMap.mp hr
  obtain ⟨r', hr', heq⟩ := List.mem_map.mp hmem
  obtain ⟨-, rfl⟩ := Prod.mk.inj heq
  cases hsw : onSwitch s p with
  | true =>
      rw [endPhysps_of_switch hsw] at hr'
      obtain ⟨i, hi, hvalid, rfl⟩ := mem_validPhysps.mp hr'
      exact ⟨List.mem_range.mp hi, hvalid⟩
  | false =>
      rw [endPhysps_of_endPort hsw] at hr'
      obtain rfl := List.mem_singleton.mp hr'
      exact h.endPhysp p hp hsw

/-- And every linked physical port is placed. -/
theorem LinkedFabric.mem_placed (h : LinkedFabric s) {r : PhyspRef} (hr : s.IsPhysp r)
    (hlinked : (s.physp r).remote.isSome = true) : ∃ lid, (lid, r) ∈ placed s s.ports := by
  have hplace : ∀ p ∈ s.ports, r ∈ endPhysps s p → ∃ lid, (lid, r) ∈ placed s s.ports :=
    fun p hp hmem => ⟨endLid s p, List.mem_flatMap.mpr ⟨p, hp, List.mem_map.mpr ⟨r, hmem, rfl⟩⟩⟩
  rcases h.linked r hr hlinked with ⟨hn, -⟩ | ⟨hnode, p, hp, rfl⟩
  · obtain ⟨p, hp, hpn⟩ := h.switchPort r.node hn
    have hsw : onSwitch s p = true := by
      rw [onSwitch, OsmSubn.nodeOf, hpn]
      exact (List.mem_filter.mp hn).2
    refine hplace p hp ?_
    rw [endPhysps_of_switch hsw, hpn]
    refine mem_validPhysps.mpr ⟨r.port, List.mem_range.mpr ?_, hr.2, rfl⟩
    rw [OsmSubn.nodeOf, hpn]
    exact hr.1
  · refine hplace p hp ?_
    rw [endPhysps_of_endPort hnode]
    exact List.mem_singleton_self _

/-- A linked port that the loop visits on a switch finds a port 0 there. -/
theorem LinkedFabric.hasPort0 (h : LinkedFabric s) {p : OsmPort} (hp : p ∈ s.ports)
    (hsw : onSwitch s p = true) {r : PhyspRef} (hr : r ∈ endPhysps s p)
    (hlinked : (s.physp r).remote.isSome = true) :
    (s.nodeOf p.pPhysp).hasPort0 = true := by
  have hphysp : s.IsPhysp r :=
    h.isPhysp (List.mem_flatMap.mpr ⟨p, hp, List.mem_map.mpr ⟨r, hr, rfl⟩⟩)
  rw [endPhysps_of_switch hsw] at hr
  obtain ⟨i, hi, hvalid, rfl⟩ := mem_validPhysps.mp hr
  rcases h.linked _ hphysp hlinked with ⟨-, hport0⟩ | ⟨hnode, -⟩
  · exact hport0
  · exact absurd (hsw.symm.trans hnode) Bool.noConfusion

theorem LinkedFabric.keys_nodup (h : LinkedFabric s) :
    ((placed s s.ports).map (placedKey s)).Nodup :=
  placedKeys_nodup h.distinctLids fun _ _ _ i hi hvalid => h.numbered ⟨_, i⟩ ⟨hi, hvalid⟩

end Linked

/-- After an extraction into a fresh database the link records come in pairs, one
for each direction, whatever the two ends are. -/
theorem linkSymmetric_ssaDbExtract (mem : Mem) (firstTimeSubnetUp : Bool)
    {ssaDb : SsaDatabase} (hfresh : ssaDb.pDumpDb = ssaDbExtractInit) {s : OsmSubn}
    (h : LinkedFabric s) :
    LinkSymmetric (ssaDbExtract mem firstTimeSubnetUp ssaDb s).pDumpDb := by
  have hlink := (snapshotLogs_ssaDbExtract mem firstTimeSubnetUp s hfresh).link
  rw [linkRun_eq_placed s.ports _ fun p hp hsw r hr hrem => h.hasPort0 hp hsw hr hrem] at hlink
  have hnodup := h.keys_nodup.sublist (keys_links_sublist (placed s s.ports))
  intro k rec hrec
  -- the record is that of a placed port with a peer
  have hk : k ∈ ((placed s s.ports).filterMap fun q => linkEntry s q.1 q.2).map Prod.fst := by
    rw [← hlink.mem_keys, ← OrdMap.get?_isSome]
    obtain ⟨o, ho, -⟩ := view_eq_some.mp hrec
    rw [ho]
    rfl
  obtain ⟨e, he, rfl⟩ := List.mem_map.mp hk
  obtain rfl := Option.some.inj ((hlink.view_of_mem hnodup he).symm.trans hrec)
  obtain ⟨⟨lid, r⟩, hq, hentry⟩ := List.mem_filterMap.mp he
  obtain ⟨r', hrem, rfl⟩ := Option.map_eq_some_iff.mp hentry
  -- the peer is placed too, and its record is the reverse
  obtain ⟨hphysp', hrem'⟩ := h.peers r r' (h.isPhysp hq) hrem
  obtain ⟨lid', hq'⟩ := h.mem_placed hphysp' (by rw [hrem']; rfl)
  have he' : (physpKey s lid' r', epLinkTblRecInit s r' r)
      ∈ (placed s s.ports).filterMap fun q => linkEntry s q.1 q.2 :=
    List.mem_filterMap.mpr ⟨(lid', r'), hq', by rw [linkEntry, hrem']; rfl⟩
  exact ⟨_, _, hlink.view_of_mem hnodup he', reverse_epLinkTblRecInit s r r'⟩

/-! ## A fabric with links of every kind -/

/-- The nodes that `OsmSubn.ofNodes` makes up have no physical ports. -/
theorem lt_of_isPhysp_ofNodes {nodes : List OsmNode} {r : PhyspRef}
    (h : (OsmSubn.ofNodes nodes).IsPhysp r) : r.node < nodes.length := by
  by_contra hge
  have hnode : (OsmSubn.ofNodes nodes).nodeOf r = default := by
    show nodes.getD r.node default = default
    rw [List.getD_eq_getElem?_getD, List.getElem?_eq_none (by omega), Option.getD_none]
  have hport := h.1
  rw [hnode] at hport
  exact absurd hport (Nat.not_lt_zero _)

/-- A node whose ports are plugged into what `peer` says. A switch has three
ports, any other node has port 1. -/
def pluggedNode (nodeType : UInt8) (guid : UInt64) (lid : UInt16)
    (peer : Nat → Option PhyspRef) : OsmNode :=
  { (default : OsmNode) with
    nodeGuid := guid
    nodeType := nodeType
    sw := { numPorts := 3, lftSize := 64, lft := fun _ => 0, isEnhancedPort0 := 0 }
    physpTblSize := if nodeType = ibNodeTypeSwitch then 3 else 2
    physpTable := fun i =>
      { (default : OsmPhysp) with
        valid := nodeType == ibNodeTypeSwitch || i == 1
        portGuid := guid
        portNum := UInt8.ofNat i
        baseLid := htons lid
        remote := peer i } }

/-- Two switches that are linked, with a channel adapter's port on each of them,
and two such ports plugged into each other. -/
def pluggedFabric : OsmSubn :=
  OsmSubn.ofNodes
    [pluggedNode ibNodeTypeSwitch 1 1 fun i =>
        if i = 1 then some ⟨1, 1⟩ else if i = 2 then some ⟨2, 1⟩ else none,
      pluggedNode ibNodeTypeSwitch 2 2 fun i =>
        if i = 1 then some ⟨0, 1⟩ else if i = 2 then some ⟨3, 1⟩ else none,
      pluggedNode 1 3 3 fun i => if i = 1 then some ⟨0, 2⟩ else none,
      pluggedNode 1 4 4 fun i => if i = 1 then some ⟨1, 2⟩ else none,
      pluggedNode 1 5 5 fun i => if i = 1 then some ⟨5, 1⟩ else none,
      pluggedNode 1 6 6 fun i => if i = 1 then some ⟨4, 1⟩ else none]

theorem linkedFabric_pluggedFabric : LinkedFabric pluggedFabric := by
  -- the physical ports are among those of six nodes with at most three ports
  have hsmall : ∀ r, pluggedFabric.IsPhysp r → r.node < 6 ∧ r.port < 3 := by
    intro r hr
    have hnode : r.node < 6 := lt_of_isPhysp_ofNodes hr
    have hsize : ∀ n < 6, (pluggedFabric.deref n).physpTblSize.toNat ≤ 3 := by decide
    exact ⟨hnode, Nat.lt_of_lt_of_le hr.1 (hsize r.node hnode)⟩
  have hpeers : ∀ n < 6, ∀ i < 3, pluggedFabric.IsPhysp ⟨n, i⟩ →
      ∀ r' ∈ (pluggedFabric.physp ⟨n, i⟩).remote,
        pluggedFabric.IsPhysp r' ∧ (pluggedFabric.physp r').remote = some ⟨n, i⟩ := by decide
  have hswitch : ∀ n < 6, (pluggedFabric.deref n).isSwitch = true →
      n ∈ pluggedFabric.switches ∧ (pluggedFabric.deref n).hasPort0 = true := by decide
  have hone : ∀ n < 6, (pluggedFabric.deref n).isSwitch = false → ∀ i < 3,
      pluggedFabric.IsPhysp ⟨n, i⟩ → i = 1 := by decide
  have hend : ∀ n < 6, (pluggedFabric.deref n).isSwitch = false →
      ∃ p ∈ pluggedFabric.ports, p.pPhysp = ⟨n, 1⟩ := by decide
  have hnum : ∀ n < 6, ∀ i < 3, pluggedFabric.IsPhysp ⟨n, i⟩ →
      (pluggedFabric.physp ⟨n, i⟩).portNum.toNat = i := by decide
  refine ⟨by decide, ?_, ?_, by decide, ?_, by decide⟩
  · intro r r' hr hrem
    exact hpeers r.node (hsmall r hr).1 r.port (hsmall r hr).2 hr r' hrem
  · intro r hr _
    obtain ⟨hn, hi⟩ := hsmall r hr
    cases hsw : (pluggedFabric.nodeOf r).isSwitch with
    | true => exact Or.inl (hswitch r.node hn hsw)
    | false =>
        have hr1 : r = ⟨r.node, 1⟩ :=
          congrArg (PhyspRef.mk r.node) (hone r.node hn hsw r.port hi hr)
        rw [hr1]
        exact Or.inr ⟨rfl, hend r.node hn hsw⟩
  · intro r hr
    exact hnum r.node (hsmall r hr).1 r.port (hsmall r hr).2 hr

theorem linkSymmetric_pluggedFabric :
    LinkSymmetric (ssaDbExtract default true ssaDatabaseInit pluggedFabric).pDumpDb :=
  linkSymmetric_ssaDbExtract default true rfl linkedFabric_pluggedFabric

end Ibssa
