import Ibssa.Lib.OrdMap
import Ibssa.Lib.ByteOrder

/-!
# What the extraction reads of OpenSM

The subnet manager's own structures, as far as the plugin looks at them.
Nodes are reached through pointers, which are numbers here, and `deref`
says what a pointer points to; a physical port is named by its node and its
index in the node's table. GUIDs are kept as the 64 bits lie in memory: the
plugin moves them around and uses them as map keys and never converts them.

Where OpenSM computes something the plugin only stores (a rate, an MTU, the
enhanced port 0 flag), the structure carries the value.
-/

namespace Ibssa

open Keyed ByteOrder

/-- `IB_NODE_TYPE_SWITCH`. -/
def ibNodeTypeSwitch : UInt8 := 2

/-- `IB_SMP_DATA_SIZE`, the number of entries in an LFT block. -/
def ibSmpDataSize : Nat := 64

/-- A pointer to a physical port: a node and an index in its table. -/
structure PhyspRef where
  node : Nat
  port : Nat
deriving DecidableEq, Inhabited, Repr

/-- `osm_physp_t`. `computeRate` is `ib_port_info_compute_rate` on the
port's own port info, by whether extended speeds apply. `pkeys` are the
objects of the port's pkey map in iteration order, as they lie in memory. -/
structure OsmPhysp where
  valid : Bool
  portGuid : UInt64
  portNum : UInt8
  baseLid : Be16
  lmc : UInt8
  neighborMtu : UInt8
  computeRate : Bool → UInt8
  hasExtSpeeds : Bool
  vlEnforce : UInt8
  fdr10Active : Bool
  pkeys : List UInt16
  remote : Option PhyspRef
deriving Inhabited

/-- `osm_switch_t`. -/
structure OsmSwitch where
  numPorts : UInt8
  lftSize : UInt16
  lft : Nat → UInt8
  isEnhancedPort0 : UInt8
deriving Inhabited

/-- `osm_node_t`. The switch object is looked at for switches only. -/
structure OsmNode where
  nodeGuid : UInt64
  nodeType : UInt8
  description : Vector UInt8 64
  sw : OsmSwitch
  physpTblSize : UInt16
  physpTable : Nat → OsmPhysp
deriving Inhabited

def OsmNode.isSwitch (n : OsmNode) : Bool := n.nodeType == ibNodeTypeSwitch

/-- `osm_node_get_base_lid`. -/
def OsmNode.baseLid (n : OsmNode) (portNum : Nat) : Be16 := (n.physpTable portNum).baseLid

/-- `osm_port_t`. -/
structure OsmPort where
  pNode : Nat
  pPhysp : PhyspRef
deriving DecidableEq, Inhabited, Repr

/-- `osm_subn_t`. -/
structure OsmSubn where
  subnetPrefix : Be64
  smState : UInt8
  lmc : UInt8
  subnetTimeout : UInt8
  allowBothPkeys : UInt32
  portLidTblSize : Nat
  swGuidTblCount : Nat
  nodeGuidTbl : OrdMap UInt64 Nat
  portGuidTbl : OrdMap UInt64 OsmPort
  deref : Nat → OsmNode
deriving Inhabited

namespace OsmSubn

/-- The node a physical port belongs to, `p_physp->p_node`. -/
def nodeOf (s : OsmSubn) (r : PhyspRef) : OsmNode := s.deref r.node

def physp (s : OsmSubn) (r : PhyspRef) : OsmPhysp := (s.nodeOf r).physpTable r.port

end OsmSubn

/-- `osm_epi_lft_change_flags_t`: the two flags the plugin knows, and any
other value of the field. -/
inductive LftChangeFlags where
  | lftTop
  | block
  | other (flags : Nat)
deriving DecidableEq, Inhabited, Repr

/-- `osm_epi_lft_change_event_t`. -/
structure OsmEpiLftChangeEvent where
  pSw : Option OsmNode
  flags : LftChangeFlags
  lftTop : UInt16
  blockNum : UInt32
deriving Inhabited

/-- The subnet of some nodes, each with one end port: port 0 of a switch, port 1
of any other node. -/
def OsmSubn.ofNodes (nodes : List OsmNode) : OsmSubn :=
  let places := List.range nodes.length
  let node := fun i => nodes.getD i default
  let endPort := fun i => if (node i).isSwitch then 0 else 1
  { (default : OsmSubn) with
    portLidTblSize := nodes.length + 1
    swGuidTblCount := (nodes.filter OsmNode.isSwitch).length
    nodeGuidTbl := OrdMap.ofList (places.map fun i => ((node i).nodeGuid, i))
    portGuidTbl :=
      OrdMap.ofList
        (places.map fun i => (((node i).physpTable (endPort i)).portGuid, ⟨i, ⟨i, endPort i⟩⟩))
    deref := node }

end Ibssa
