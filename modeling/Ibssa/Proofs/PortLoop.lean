import Mathlib.Algebra.BigOperators.Fin
import Ibssa.Core.Extract
import Ibssa.Lib.Laid
import Ibssa.Lib.Run

/-!
# The loop over the end ports

The loop appends to four tables at four offsets of its own, and what it appends
depends on where it has come to: the LID under which a switch's ports are filed
is a variable that only a valid port 0 sets, and the place where a port's pkeys
start is made of two offsets that are brought together at the end of the body.
A port that is not on a switch and has no remote peer leaves the body before
that point, and what it copied is then counted again for the next port.

`PortCursor` is that part of the loop's state. Given the cursor, what one end
port adds can be read off the subnet: `portEntries`, `linkEntries` and `ownPkeys`,
with `PortCursor.after` for the cursor it leaves. So the three tables are logs of
three lists, and `PortsHold` says that they are. The offsets add up whichever
way a body ends, `full`, and that is why no pkey is ever overwritten even where
a record designates the wrong ones.
-/

namespace Ibssa

open Keyed ByteOrder Machine

/-! ## What the body leaves alone

Whatever the parts of the body do to ports, links and pkeys, the node table, the
GUID table and the place of the pkey table stay as they are. -/

structure PortFrame (st st' : PortLoop) : Prop where
  epNodeTbl : st'.pSsa.epNodeTbl = st.pSsa.epNodeTbl
  pNodeTbl : st'.pSsa.pNodeTbl = st.pSsa.pNodeTbl
  epGuidToLidTbl : st'.pSsa.epGuidToLidTbl = st.pSsa.epGuidToLidTbl
  pGuidToLidTbl : st'.pSsa.pGuidToLidTbl = st.pSsa.pGuidToLidTbl
  guidToLidOffset : st'.guidToLidOffset = st.guidToLidOffset
  pkeyTblRecNum : st'.pSsa.pkeyTblRecNum = st.pSsa.pkeyTblRecNum
  pkeyAddr : st'.pSsa.pPkeyTbl.addr = st.pSsa.pPkeyTbl.addr

theorem PortFrame.refl (st : PortLoop) : PortFrame st st := ⟨rfl, rfl, rfl, rfl, rfl, rfl, rfl⟩

theorem PortFrame.trans {st₁ st₂ st₃ : PortLoop} (h : PortFrame st₁ st₂)
    (h' : PortFrame st₂ st₃) : PortFrame st₁ st₃ where
  epNodeTbl := h'.epNodeTbl.trans h.epNodeTbl
  pNodeTbl := h'.pNodeTbl.trans h.pNodeTbl
  epGuidToLidTbl := h'.epGuidToLidTbl.trans h.epGuidToLidTbl
  pGuidToLidTbl := h'.pGuidToLidTbl.trans h.pGuidToLidTbl
  guidToLidOffset := h'.guidToLidOffset.trans h.guidToLidOffset
  pkeyTblRecNum := h'.pkeyTblRecNum.trans h.pkeyTblRecNum
  pkeyAddr := h'.pkeyAddr.trans h.pkeyAddr

/-- A loop whose body keeps the frame keeps it. -/
theorem PortFrame.foldl {β : Type} {f : PortLoop → β → PortLoop}
    (hf : ∀ st b, PortFrame st (f st b)) (l : List β) (st : PortLoop) :
    PortFrame st (l.foldl f st) :=
  loop_induction (P := fun _ st' => PortFrame st st') (PortFrame.refl st)
    (fun _ b _ h => h.trans (hf _ b)) l

theorem portFrame_addPkey (st : PortLoop) (pPkey : UInt16) : PortFrame st (addPkey st pPkey) :=
  ⟨rfl, rfl, rfl, rfl, rfl, rfl, rfl⟩

theorem portFrame_pkeys (l : List UInt16) (st : PortLoop) :
    PortFrame st (l.foldl addPkey st) :=
  PortFrame.foldl portFrame_addPkey l st

theorem portFrame_lidHo (st : PortLoop) (lidHo : UInt16) :
    PortFrame st { st with lidHo := lidHo } := ⟨rfl, rfl, rfl, rfl, rfl, rfl, rfl⟩

theorem portFrame_addPort (st : PortLoop) (epRecKey : UInt64) (pRec : EpPortTblRec) :
    PortFrame st (addPort st epRecKey pRec) := ⟨rfl, rfl, rfl, rfl, rfl, rfl, rfl⟩

theorem portFrame_addLink (st : PortLoop) (epRecKey : UInt64) (pRec : EpLinkTblRec) :
    PortFrame st (addLink st epRecKey pRec) := ⟨rfl, rfl, rfl, rfl, rfl, rfl, rfl⟩

theorem portFrame_nextPkeyBase (st : PortLoop) : PortFrame st (nextPkeyBase st) :=
  ⟨rfl, rfl, rfl, rfl, rfl, rfl, rfl⟩

/-- A link, if the port has a remote peer. -/
private theorem portFrame_link (s : OsmSubn) (r : PhyspRef) (st : PortLoop) (key : UInt64) :
    PortFrame st
      (match (s.physp r).remote with
      | none => st
      | some pRemote => addLink st key (epLinkTblRecInit s r pRemote)) := by
  split
  · exact PortFrame.refl st
  · exact portFrame_addLink _ _ _

theorem portFrame_addSwitchPhysp (s : OsmSubn) (pPort : OsmPort) (st : PortLoop) (i : Nat) :
    PortFrame st (addSwitchPhysp s pPort st i) := by
  rw [addSwitchPhysp]
  split
  · exact PortFrame.refl st
  · refine PortFrame.trans ?_ ((portFrame_addPort _ _ _).trans (portFrame_link s _ _ _))
    split
    · exact (portFrame_lidHo st _).trans (portFrame_pkeys _ _)
    · exact PortFrame.refl st

/-- The key of an end port that is not on a switch. -/
def endPortKey (s : OsmSubn) (p : OsmPort) : UInt64 :=
  epRecGenKey (ntohs (s.physp p.pPhysp).baseLid) (s.physp p.pPhysp).portNum.toUInt16

/-- Such a port's pkeys and its record. -/
def addEndPort (s : OsmSubn) (st : PortLoop) (p : OsmPort) : PortLoop :=
  let st := (s.physp p.pPhysp).pkeys.foldl addPkey st
  addPort st (endPortKey s p) (withPkeys st (epPortTblRecInit s p.pPhysp))

theorem portLoopBody_of_switch {s : OsmSubn} {p : OsmPort}
    (h : (s.nodeOf p.pPhysp).isSwitch = true) (st : PortLoop) :
    portLoopBody s st p
      = nextPkeyBase ((List.range (s.nodeOf p.pPhysp).physpTblSize.toNat).foldl
          (addSwitchPhysp s p) (addGuidToLid s st p)) := by
  rw [portLoopBody]
  exact if_pos h

theorem portLoopBody_of_endPort {s : OsmSubn} {p : OsmPort}
    (h : (s.nodeOf p.pPhysp).isSwitch = false) (st : PortLoop) :
    portLoopBody s st p
      = match (s.physp p.pPhysp).remote with
        | none => addEndPort s (addGuidToLid s st p) p
        | some pRemote =>
            nextPkeyBase (addLink (addEndPort s (addGuidToLid s st p) p) (endPortKey s p)
              (epLinkTblRecInit s p.pPhysp pRemote)) := by
  rw [portLoopBody]
  exact if_neg (by rw [h]; decide)

theorem portFrame_addEndPort (s : OsmSubn) (st : PortLoop) (p : OsmPort) :
    PortFrame st (addEndPort s st p) :=
  (portFrame_pkeys _ _).trans (portFrame_addPort _ _ _)

/-- The body of the loop, apart from the port's GUID record. -/
theorem portFrame_portLoopBody (s : OsmSubn) (st : PortLoop) (p : OsmPort) :
    PortFrame (addGuidToLid s st p) (portLoopBody s st p) := by
  cases hsw : (s.nodeOf p.pPhysp).isSwitch with
  | true =>
      rw [portLoopBody_of_switch hsw]
      exact (PortFrame.foldl (portFrame_addSwitchPhysp s p) _ _).trans
        (portFrame_nextPkeyBase _)
  | false =>
      rw [portLoopBody_of_endPort hsw]
      refine PortFrame.trans (portFrame_addEndPort s _ p) ?_
      split
      · exact PortFrame.refl _
      · exact (portFrame_addLink _ _ _).trans (portFrame_nextPkeyBase _)

/-! ## What one end port adds -/

/-- The variables that the records of the next end port depend on. -/
structure PortCursor where
  lidHo : UInt16
  base : Nat
  cur : Nat
deriving DecidableEq, Repr

def PortLoop.cursor (st : PortLoop) : PortCursor :=
  ⟨st.lidHo, st.pkeyBaseOffset, st.pkeyCurOffset⟩

/-- The size field of a record that is given `n` pkeys. -/
def runSize (n : Nat) : UInt16 := UInt16.ofNat (n * SsaTableId.pkey.recSize)

/-- The node has a physical port 0, and it is valid. -/
def OsmNode.hasPort0 (n : OsmNode) : Bool :=
  decide (0 < n.physpTblSize.toNat) && (n.physpTable 0).valid

theorem hasPort0_iff {n : OsmNode} :
    n.hasPort0 = true ↔ 0 < n.physpTblSize.toNat ∧ (n.physpTable 0).valid = true := by
  rw [OsmNode.hasPort0, Bool.and_eq_true, decide_eq_true_eq]

/-- The valid ones among some physical ports of a node. -/
def validPhysps (s : OsmSubn) (node : Nat) (l : List Nat) : List PhyspRef :=
  (l.filter fun i => (s.physp ⟨node, i⟩).valid).map fun i => ⟨node, i⟩

/-- The physical ports that get a record, in loop order. -/
def endPhysps (s : OsmSubn) (p : OsmPort) : List PhyspRef :=
  if (s.nodeOf p.pPhysp).isSwitch then
    validPhysps s p.pPhysp.node (List.range (s.nodeOf p.pPhysp).physpTblSize.toNat)
  else [p.pPhysp]

/-- The pkeys that are copied for an end port. A switch needs a port 0 for it. -/
def ownPkeys (s : OsmSubn) (p : OsmPort) : List UInt16 :=
  if (s.nodeOf p.pPhysp).isSwitch && !(s.nodeOf p.pPhysp).hasPort0 then []
  else (s.physp p.pPhysp).pkeys

/-- The LID under which the records of an end port are filed. -/
def lidOf (s : OsmSubn) (c : PortCursor) (p : OsmPort) : UInt16 :=
  if (s.nodeOf p.pPhysp).isSwitch then
    if (s.nodeOf p.pPhysp).hasPort0 then ntohs ((s.nodeOf p.pPhysp).baseLid 0) else c.lidHo
  else ntohs (s.physp p.pPhysp).baseLid

/-- The key of a physical port under a LID. -/
def physpKey (s : OsmSubn) (lid : UInt16) (r : PhyspRef) : UInt64 :=
  epRecGenKey lid (s.physp r).portNum.toUInt16

/-- The record of a physical port, but for its pkeys. -/
def plainPortRec (s : OsmSubn) (lid : UInt16) (r : PhyspRef) : EpPortTblRec :=
  { epPortTblRecInit s r with portLid := htons lid }

/-- The record of a physical port, where pkeys from `base` on are counted up to
`cur` for the end port. -/
def portRec (s : OsmSubn) (lid : UInt16) (base cur : Nat) (r : PhyspRef) : EpPortTblRec :=
  if (s.nodeOf r).isSwitch ∧ r.port ≠ 0 then plainPortRec s lid r
  else
    { plainPortRec s lid r with
      pkeyTblOffset := htonll base
      pkeyTblSize := htons (runSize cur) }

def portEntry (s : OsmSubn) (lid : UInt16) (base cur : Nat) (r : PhyspRef) :
    UInt64 × EpPortTblRec :=
  (physpKey s lid r, portRec s lid base cur r)

def linkEntry (s : OsmSubn) (lid : UInt16) (r : PhyspRef) : Option (UInt64 × EpLinkTblRec) :=
  (s.physp r).remote.map fun pRemote => (physpKey s lid r, epLinkTblRecInit s r pRemote)

def portEntries (s : OsmSubn) (c : PortCursor) (p : OsmPort) : List (UInt64 × EpPortTblRec) :=
  (endPhysps s p).map (portEntry s (lidOf s c p) c.base (c.cur + (ownPkeys s p).length))

def linkEntries (s : OsmSubn) (c : PortCursor) (p : OsmPort) : List (UInt64 × EpLinkTblRec) :=
  (endPhysps s p).filterMap (linkEntry s (lidOf s c p))

/-- The body reaches its last two assignments. -/
def closesRun (s : OsmSubn) (p : OsmPort) : Bool :=
  (s.nodeOf p.pPhysp).isSwitch || (s.physp p.pPhysp).remote.isSome

def PortCursor.after (s : OsmSubn) (c : PortCursor) (p : OsmPort) : PortCursor where
  lidHo := if (s.nodeOf p.pPhysp).isSwitch then lidOf s c p else c.lidHo
  base := if closesRun s p then c.base + (c.cur + (ownPkeys s p).length) else c.base
  cur := if closesRun s p then 0 else c.cur + (ownPkeys s p).length

/-- All the entries of the port table and of the link table, in loop order. -/
def portRun (s : OsmSubn) : PortCursor → List OsmPort → List (UInt64 × EpPortTblRec)
  | _, [] => []
  | c, p :: ps => portEntries s c p ++ portRun s (c.after s p) ps

def linkRun (s : OsmSubn) : PortCursor → List OsmPort → List (UInt64 × EpLinkTblRec)
  | _, [] => []
  | c, p :: ps => linkEntries s c p ++ linkRun s (c.after s p) ps

def cursorAfter (s : OsmSubn) (c : PortCursor) (ps : List OsmPort) : PortCursor :=
  ps.foldl (PortCursor.after s) c

theorem endPhysps_of_switch {s : OsmSubn} {p : OsmPort}
    (h : (s.nodeOf p.pPhysp).isSwitch = true) :
    endPhysps s p
      = validPhysps s p.pPhysp.node (List.range (s.nodeOf p.pPhysp).physpTblSize.toNat) := by
  rw [endPhysps, if_pos h]

theorem endPhysps_of_endPort {s : OsmSubn} {p : OsmPort}
    (h : (s.nodeOf p.pPhysp).isSwitch = false) : endPhysps s p = [p.pPhysp] := by
  rw [endPhysps, if_neg (by rw [h]; decide)]

theorem validPhysps_cons_of_valid {s : OsmSubn} {node i : Nat}
    (h : (s.physp ⟨node, i⟩).valid = true) (l : List Nat) :
    validPhysps s node (i :: l) = ⟨node, i⟩ :: validPhysps s node l := by
  rw [validPhysps, List.filter_cons_of_pos (by exact h)]
  rfl

theorem validPhysps_cons_of_invalid {s : OsmSubn} {node i : Nat}
    (h : (s.physp ⟨node, i⟩).valid = false) (l : List Nat) :
    validPhysps s node (i :: l) = validPhysps s node l := by
  rw [validPhysps, List.filter_cons_of_neg (by rw [h]; decide)]
  rfl

/-! ## The invariant -/

/-- The three tables are logs of three lists, over the blocks of `st₀`. -/
structure PortsHold (st₀ : PortLoop) (ports : List (UInt64 × EpPortTblRec))
    (links : List (UInt64 × EpLinkTblRec)) (pkeys : List UInt16) (c : PortCursor)
    (st : PortLoop) : Prop where
  port : Stored ports st.pSsa.epPortTbl st₀.pSsa.pPortTbl st.pSsa.pPortTbl
  link : Stored links st.pSsa.epLinkTbl st₀.pSsa.pLinkTbl st.pSsa.pLinkTbl
  pkey : Logged pkeys st₀.pSsa.pPkeyTbl st.pSsa.pPkeyTbl
  portOffset : st.portOffset = ports.length
  linkOffset : st.linkOffset = links.length
  cursor : st.cursor = c
  full : c.base + c.cur = pkeys.length

section PortsHold

variable {st₀ st : PortLoop} {ports : List (UInt64 × EpPortTblRec)}
  {links : List (UInt64 × EpLinkTblRec)} {pkeys : List UInt16} {c : PortCursor}

theorem PortsHold.addGuidToLid (h : PortsHold st₀ ports links pkeys c st) (s : OsmSubn)
    (p : OsmPort) : PortsHold st₀ ports links pkeys c (addGuidToLid s st p) :=
  ⟨h.port, h.link, h.pkey, h.portOffset, h.linkOffset, h.cursor, h.full⟩

private theorem PortsHold.lid (h : PortsHold st₀ ports links pkeys c st) (lidHo : UInt16) :
    PortsHold st₀ ports links pkeys { c with lidHo := lidHo } { st with lidHo := lidHo } := by
  obtain ⟨hport, hlink, hpkey, hpo, hlo, rfl, hfull⟩ := h
  exact ⟨hport, hlink, hpkey, hpo, hlo, rfl, hfull⟩

private theorem PortsHold.addPkey (h : PortsHold st₀ ports links pkeys c st) (pkey : UInt16) :
    PortsHold st₀ ports links (pkeys ++ [pkey]) { c with cur := c.cur + 1 }
      (addPkey st pkey) := by
  obtain ⟨hport, hlink, hpkey, hpo, hlo, rfl, hfull⟩ := h
  have hpush := hpkey.push pkey
  rw [← hfull] at hpush
  refine ⟨hport, hlink, hpush, hpo, hlo, rfl, ?_⟩
  rw [List.length_append, List.length_singleton, ← hfull]
  exact (Nat.add_assoc _ _ _).symm

private theorem PortsHold.addPkeys (h : PortsHold st₀ ports links pkeys c st)
    (l : List UInt16) :
    PortsHold st₀ ports links (pkeys ++ l) { c with cur := c.cur + l.length }
      (l.foldl Ibssa.addPkey st) := by
  refine loop_induction
    (P := fun l st' =>
      PortsHold st₀ ports links (pkeys ++ l) { c with cur := c.cur + l.length } st') ?_ ?_ l
  · rw [List.append_nil]
    exact h
  · intro l pkey st' h'
    have hnext := h'.addPkey pkey
    rw [List.append_assoc] at hnext
    rw [List.length_append, List.length_singleton, ← Nat.add_assoc]
    exact hnext

private theorem PortsHold.addPort (h : PortsHold st₀ ports links pkeys c st) (key : UInt64)
    (pRec : EpPortTblRec) :
    PortsHold st₀ (ports ++ [(key, pRec)]) links pkeys c (addPort st key pRec) := by
  have hpush := h.port.push key pRec
  rw [← h.portOffset] at hpush
  refine ⟨hpush, h.link, h.pkey, ?_, h.linkOffset, h.cursor, h.full⟩
  rw [Ibssa.addPort, h.portOffset, List.length_append, List.length_singleton]

/-- The link of a physical port, if it has a remote peer. -/
private theorem PortsHold.addLink (h : PortsHold st₀ ports links pkeys c st) (s : OsmSubn)
    (lid : UInt16) (r : PhyspRef) :
    PortsHold st₀ ports (links ++ (linkEntry s lid r).toList) pkeys c
      (match (s.physp r).remote with
      | none => st
      | some pRemote => addLink st (physpKey s lid r) (epLinkTblRecInit s r pRemote)) := by
  rw [linkEntry]
  cases hrem : (s.physp r).remote with
  | none =>
      rw [Option.map_none, Option.toList_none, List.append_nil]
      exact h
  | some pRemote =>
      have hpush := h.link.push (physpKey s lid r) (epLinkTblRecInit s r pRemote)
      rw [← h.linkOffset] at hpush
      refine ⟨h.port, hpush, h.pkey, h.portOffset, ?_, h.cursor, h.full⟩
      show st.linkOffset + 1 = _
      rw [h.linkOffset, List.length_append]
      rfl

private theorem PortsHold.nextPkeyBase (h : PortsHold st₀ ports links pkeys c st) :
    PortsHold st₀ ports links pkeys { c with base := c.base + c.cur, cur := 0 }
      (nextPkeyBase st) := by
  obtain ⟨hport, hlink, hpkey, hpo, hlo, rfl, hfull⟩ := h
  exact ⟨hport, hlink, hpkey, hpo, hlo, rfl, hfull⟩

private theorem filterMap_cons_toList {α β : Type} (f : α → Option β) (a : α) (l : List α) :
    (a :: l).filterMap f = (f a).toList ++ l.filterMap f := by
  rw [List.filterMap_cons]
  cases f a <;> rfl

private theorem filterMap_singleton_toList {α β : Type} (f : α → Option β) (a : α) :
    [a].filterMap f = (f a).toList := by
  rw [filterMap_cons_toList, List.filterMap_nil, List.append_nil]

/-! The physical ports of a switch. Port 0 comes first if there is one: it sets
the LID, and brings the pkeys. The others find both as they are. -/

private theorem PortsHold.extPhysp (h : PortsHold st₀ ports links pkeys c st) {s : OsmSubn}
    {p : OsmPort} (hsw : (s.nodeOf p.pPhysp).isSwitch = true) (base cur : Nat) {i : Nat}
    (hi : i ≠ 0) (hvalid : (s.physp ⟨p.pPhysp.node, i⟩).valid = true) :
    PortsHold st₀ (ports ++ [portEntry s c.lidHo base cur ⟨p.pPhysp.node, i⟩])
      (links ++ (linkEntry s c.lidHo ⟨p.pPhysp.node, i⟩).toList) pkeys c
      (addSwitchPhysp s p st i) := by
  have hlid : st.lidHo = c.lidHo := congrArg PortCursor.lidHo h.cursor
  have hrec : portEntry s c.lidHo base cur ⟨p.pPhysp.node, i⟩
      = (physpKey s c.lidHo ⟨p.pPhysp.node, i⟩, plainPortRec s c.lidHo ⟨p.pPhysp.node, i⟩) := by
    rw [portEntry, portRec, if_pos ⟨hsw, hi⟩]
  rw [hrec, addSwitchPhysp, hvalid]
  simp only [Bool.not_true, Bool.false_eq_true, if_false, if_neg hi, hlid]
  exact (h.addPort _ _).addLink s c.lidHo _

private theorem PortsHold.extPhysps (h : PortsHold st₀ ports links pkeys c st) {s : OsmSubn}
    {p : OsmPort} (hsw : (s.nodeOf p.pPhysp).isSwitch = true) (base cur : Nat) (l : List Nat)
    (hl : ∀ i ∈ l, (s.physp ⟨p.pPhysp.node, i⟩).valid = true → i ≠ 0) :
    PortsHold st₀
      (ports ++ (validPhysps s p.pPhysp.node l).map (portEntry s c.lidHo base cur))
      (links ++ (validPhysps s p.pPhysp.node l).filterMap (linkEntry s c.lidHo))
      pkeys c (l.foldl (addSwitchPhysp s p) st) := by
  induction l generalizing ports links st with
  | nil =>
      rw [validPhysps, List.filter_nil, List.map_nil, List.map_nil, List.filterMap_nil,
        List.append_nil, List.append_nil]
      exact h
  | cons i l ih =>
      have hrest := fun j hj => hl j (List.mem_cons_of_mem i hj)
      cases hvalid : (s.physp ⟨p.pPhysp.node, i⟩).valid with
      | true =>
          have hnext := ih (h.extPhysp hsw base cur (hl i List.mem_cons_self hvalid) hvalid) hrest
          rw [List.append_assoc, List.append_assoc] at hnext
          rw [validPhysps_cons_of_valid hvalid, List.map_cons, filterMap_cons_toList]
          exact hnext
      | false =>
          have hskip : addSwitchPhysp s p st i = st := by
            rw [addSwitchPhysp, hvalid]
            rfl
          rw [validPhysps_cons_of_invalid hvalid, List.foldl_cons, hskip]
          exact ih h hrest

private theorem PortsHold.physp0 (h : PortsHold st₀ ports links pkeys c st) {s : OsmSubn}
    {p : OsmPort} (hvalid : ((s.nodeOf p.pPhysp).physpTable 0).valid = true) :
    PortsHold st₀
      (ports ++ [portEntry s (ntohs ((s.nodeOf p.pPhysp).baseLid 0)) c.base
        (c.cur + (s.physp p.pPhysp).pkeys.length) ⟨p.pPhysp.node, 0⟩])
      (links ++ (linkEntry s (ntohs ((s.nodeOf p.pPhysp).baseLid 0)) ⟨p.pPhysp.node, 0⟩).toList)
      (pkeys ++ (s.physp p.pPhysp).pkeys)
      ⟨ntohs ((s.nodeOf p.pPhysp).baseLid 0), c.base, c.cur + (s.physp p.pPhysp).pkeys.length⟩
      (addSwitchPhysp s p st 0) := by
  have hvalid' : (s.physp ⟨p.pPhysp.node, 0⟩).valid = true := hvalid
  have hpk := (h.lid (ntohs ((s.nodeOf p.pPhysp).baseLid 0))).addPkeys (s.physp p.pPhysp).pkeys
  generalize hst : (s.physp p.pPhysp).pkeys.foldl Ibssa.addPkey _ = st' at hpk
  have hlid : st'.lidHo = ntohs ((s.nodeOf p.pPhysp).baseLid 0) :=
    congrArg PortCursor.lidHo hpk.cursor
  have hbase : st'.pkeyBaseOffset = c.base := congrArg PortCursor.base hpk.cursor
  have hcur : st'.pkeyCurOffset = c.cur + (s.physp p.pPhysp).pkeys.length :=
    congrArg PortCursor.cur hpk.cursor
  have hrec : withPkeys st' (plainPortRec s st'.lidHo ⟨p.pPhysp.node, 0⟩)
      = portRec s (ntohs ((s.nodeOf p.pPhysp).baseLid 0)) c.base
          (c.cur + (s.physp p.pPhysp).pkeys.length) ⟨p.pPhysp.node, 0⟩ := by
    rw [withPkeys, hlid, hbase, hcur, portRec, if_neg (fun hc => hc.2 rfl)]
    rfl
  have hport := hpk.addPort (physpKey s st'.lidHo ⟨p.pPhysp.node, 0⟩)
    (withPkeys st' (plainPortRec s st'.lidHo ⟨p.pPhysp.node, 0⟩))
  have hlink := hport.addLink s st'.lidHo ⟨p.pPhysp.node, 0⟩
  rw [hrec, hlid] at hlink
  have hstep : addSwitchPhysp s p st 0
      = match (s.physp ⟨p.pPhysp.node, 0⟩).remote with
        | none =>
            Ibssa.addPort st' (physpKey s st'.lidHo ⟨p.pPhysp.node, 0⟩)
              (withPkeys st' (plainPortRec s st'.lidHo ⟨p.pPhysp.node, 0⟩))
        | some pRemote =>
            Ibssa.addLink
              (Ibssa.addPort st' (physpKey s st'.lidHo ⟨p.pPhysp.node, 0⟩)
                (withPkeys st' (plainPortRec s st'.lidHo ⟨p.pPhysp.node, 0⟩)))
              (physpKey s st'.lidHo ⟨p.pPhysp.node, 0⟩)
              (epLinkTblRecInit s ⟨p.pPhysp.node, 0⟩ pRemote) := by
    rw [addSwitchPhysp, hvalid', ← hst]
    rfl
  rw [hstep, hrec, hlid]
  exact hlink

private theorem PortsHold.switch (h : PortsHold st₀ ports links pkeys c st) {s : OsmSubn}
    {p : OsmPort} (hsw : (s.nodeOf p.pPhysp).isSwitch = true) :
    PortsHold st₀ (ports ++ portEntries s c p) (links ++ linkEntries s c p)
      (pkeys ++ ownPkeys s p) (c.after s p) (portLoopBody s st p) := by
  have hcloses : closesRun s p = true := by rw [closesRun, hsw, Bool.true_or]
  have hg := h.addGuidToLid s p
  rw [portLoopBody_of_switch hsw, portEntries, linkEntries, PortCursor.after, endPhysps, lidOf,
    ownPkeys, if_pos hsw, if_pos hsw, if_pos hcloses, if_pos hcloses, if_pos hsw, hsw,
    Bool.true_and]
  cases h0 : (s.nodeOf p.pPhysp).hasPort0 with
  | true =>
      have hpos : 0 < (s.nodeOf p.pPhysp).physpTblSize.toNat ∧
          (s.physp ⟨p.pPhysp.node, 0⟩).valid = true := hasPort0_iff.mp h0
      obtain ⟨n, hn⟩ := Nat.exists_eq_succ_of_ne_zero (Nat.pos_iff_ne_zero.mp hpos.1)
      rw [hn, Nat.succ_eq_add_one, List.range_succ_eq_map, validPhysps_cons_of_valid hpos.2,
        List.map_cons, filterMap_cons_toList]
      have hdone := ((hg.physp0 hpos.2).extPhysps hsw c.base
        (c.cur + (s.physp p.pPhysp).pkeys.length) ((List.range n).map Nat.succ)
        (by simp)).nextPkeyBase
      rw [List.append_assoc, List.append_assoc] at hdone
      exact hdone
  | false =>
      have hext : ∀ i ∈ List.range (s.nodeOf p.pPhysp).physpTblSize.toNat,
          (s.physp ⟨p.pPhysp.node, i⟩).valid = true → i ≠ 0 := by
        rintro i hi hvalid rfl
        have hport0 := hasPort0_iff.mpr ⟨List.mem_range.mp hi, hvalid⟩
        rw [h0] at hport0
        cases hport0
      have hdone := (hg.extPhysps hsw c.base c.cur _ hext).nextPkeyBase
      rw [← List.append_nil pkeys] at hdone
      exact hdone

/-- The record of an end port that is not on a switch, with its pkeys. -/
private theorem PortsHold.endPort (h : PortsHold st₀ ports links pkeys c st) {s : OsmSubn}
    {p : OsmPort} (hsw : (s.nodeOf p.pPhysp).isSwitch = false) :
    PortsHold st₀
      (ports ++ [portEntry s (ntohs (s.physp p.pPhysp).baseLid) c.base
        (c.cur + (s.physp p.pPhysp).pkeys.length) p.pPhysp])
      links (pkeys ++ (s.physp p.pPhysp).pkeys)
      { c with cur := c.cur + (s.physp p.pPhysp).pkeys.length } (addEndPort s st p) := by
  have hpk := h.addPkeys (s.physp p.pPhysp).pkeys
  rw [addEndPort]
  generalize (s.physp p.pPhysp).pkeys.foldl Ibssa.addPkey st = st' at hpk
  have hbase : st'.pkeyBaseOffset = c.base := congrArg PortCursor.base hpk.cursor
  have hcur : st'.pkeyCurOffset = c.cur + (s.physp p.pPhysp).pkeys.length :=
    congrArg PortCursor.cur hpk.cursor
  have hrec : withPkeys st' (epPortTblRecInit s p.pPhysp)
      = portRec s (ntohs (s.physp p.pPhysp).baseLid) c.base
          (c.cur + (s.physp p.pPhysp).pkeys.length) p.pPhysp := by
    rw [withPkeys, hbase, hcur, portRec, if_neg (fun hc => by rw [hsw] at hc; cases hc.1)]
    rfl
  rw [hrec]
  exact hpk.addPort _ _

/-- What one round of the loop adds, whichever way it ends. -/
theorem PortsHold.body (h : PortsHold st₀ ports links pkeys c st) (s : OsmSubn) (p : OsmPort) :
    PortsHold st₀ (ports ++ portEntries s c p) (links ++ linkEntries s c p)
      (pkeys ++ ownPkeys s p) (c.after s p) (portLoopBody s st p) := by
  cases hsw : (s.nodeOf p.pPhysp).isSwitch with
  | true => exact h.switch hsw
  | false =>
      have hown : ownPkeys s p = (s.physp p.pPhysp).pkeys := by
        rw [ownPkeys, hsw]
        rfl
      have hdone := ((h.addGuidToLid s p).endPort hsw).addLink s
        (ntohs (s.physp p.pPhysp).baseLid) p.pPhysp
      rw [portLoopBody_of_endPort hsw, portEntries, linkEntries, PortCursor.after, endPhysps, lidOf,
        hown, hsw, closesRun, hsw, Bool.false_or, if_neg Bool.false_ne_true,
        if_neg Bool.false_ne_true, if_neg Bool.false_ne_true, filterMap_singleton_toList]
      cases hrem : (s.physp p.pPhysp).remote with
      | none =>
          rw [hrem] at hdone
          exact hdone
      | some pRemote =>
          rw [hrem] at hdone
          exact hdone.nextPkeyBase

theorem PortsHold.loop (h : PortsHold st₀ ports links pkeys c st) (s : OsmSubn)
    (ps : List OsmPort) :
    PortsHold st₀ (ports ++ portRun s c ps) (links ++ linkRun s c ps)
      (pkeys ++ ps.flatMap (ownPkeys s)) (cursorAfter s c ps) (ps.foldl (portLoopBody s) st) := by
  induction ps generalizing ports links pkeys c st with
  | nil =>
      rw [portRun, linkRun, List.flatMap_nil, List.append_nil, List.append_nil, List.append_nil]
      exact h
  | cons p ps ih =>
      have hrest := ih (h.body s p)
      rw [List.append_assoc, List.append_assoc, List.append_assoc] at hrest
      exact hrest

end PortsHold

/-! ## Reading the lists by place -/

/-- The number of records that some end ports get. -/
def recPlace (s : OsmSubn) (ps : List OsmPort) : Nat := (ps.map fun p => (endPhysps s p).length).sum

theorem portRun_append (s : OsmSubn) (c : PortCursor) (ps qs : List OsmPort) :
    portRun s c (ps ++ qs) = portRun s c ps ++ portRun s (cursorAfter s c ps) qs := by
  induction ps generalizing c with
  | nil => rfl
  | cons p ps ih =>
      rw [List.cons_append, portRun, portRun, ih, List.append_assoc]
      rfl

theorem length_portRun (s : OsmSubn) (c : PortCursor) (ps : List OsmPort) :
    (portRun s c ps).length = recPlace s ps := by
  induction ps generalizing c with
  | nil => rfl
  | cons p ps ih =>
      rw [portRun, List.length_append, ih, portEntries, List.length_map, recPlace, recPlace,
        List.map_cons, List.sum_cons]

theorem split_at {α : Type} {l : List α} {k : Nat} (hk : k < l.length) :
    l = l.take k ++ l[k] :: l.drop (k + 1) := by
  rw [← List.drop_eq_getElem_cons hk, List.take_append_drop]

/-- The records of an end port lie behind those of the end ports before it. -/
theorem getElem?_portRun (s : OsmSubn) (c : PortCursor) {ps : List OsmPort} {k : Nat}
    (hk : k < ps.length) {j : Nat} (hj : j < (endPhysps s ps[k]).length) :
    (portRun s c ps)[recPlace s (ps.take k) + j]?
      = some (portEntry s (lidOf s (cursorAfter s c (ps.take k)) ps[k])
          (cursorAfter s c (ps.take k)).base
          ((cursorAfter s c (ps.take k)).cur + (ownPkeys s ps[k]).length)
          (endPhysps s ps[k])[j]) := by
  have hsplit := portRun_append s c (ps.take k) (ps[k] :: ps.drop (k + 1))
  rw [← split_at hk] at hsplit
  rw [hsplit, List.getElem?_append_right (by rw [length_portRun]; omega), length_portRun,
    Nat.add_sub_cancel_left, portRun, portEntries,
    List.getElem?_append_left (by rw [List.length_map]; exact hj), List.getElem?_map,
    List.getElem?_eq_getElem hj, Option.map_some]

/-- Likewise for the pkeys. -/
theorem getElem?_ownPkeys (s : OsmSubn) {ps : List OsmPort} {k : Nat} (hk : k < ps.length)
    {j : Nat} (hj : j < (ownPkeys s ps[k]).length) :
    (ps.flatMap (ownPkeys s))[((ps.take k).flatMap (ownPkeys s)).length + j]?
      = some (ownPkeys s ps[k])[j] := by
  have hsplit := congrArg (List.flatMap (ownPkeys s)) (split_at hk)
  rw [List.flatMap_append, List.flatMap_cons] at hsplit
  rw [hsplit, List.getElem?_append_right (Nat.le_add_right _ _), Nat.add_sub_cancel_left,
    List.getElem?_append_left hj, List.getElem?_eq_getElem hj]

theorem cursorAfter_concat (s : OsmSubn) (c : PortCursor) (ps : List OsmPort) (p : OsmPort) :
    cursorAfter s c (ps ++ [p]) = (cursorAfter s c ps).after s p := by
  rw [cursorAfter, List.foldl_append]
  rfl

/-- The two offsets add up to the pkeys so far. -/
theorem full_cursorAfter (s : OsmSubn) (c : PortCursor) (ps : List OsmPort) :
    (cursorAfter s c ps).base + (cursorAfter s c ps).cur
      = c.base + c.cur + (ps.flatMap (ownPkeys s)).length := by
  induction ps generalizing c with
  | nil => rfl
  | cons p ps ih =>
      have hafter : (c.after s p).base + (c.after s p).cur
          = c.base + c.cur + (ownPkeys s p).length := by
        by_cases hcloses : closesRun s p = true
        · simp only [PortCursor.after, if_pos hcloses]
          omega
        · simp only [PortCursor.after, if_neg hcloses]
          omega
      rw [cursorAfter, List.foldl_cons, ← cursorAfter, ih, hafter, List.flatMap_cons,
        List.length_append, Nat.add_assoc]

end Ibssa
