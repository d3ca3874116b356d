import TptChassis.Bus
import TptChassis.Library.Machine
import TptChassis.SomeIp
import TptChassis.VehicleBus

/-! The simulated buses of `sim/src/can.rs`, `sim/src/lin.rs` and
`sim/src/someip.rs`. The nodes of a network share its list of receive queues. A
node is named by the place of its queue in that list, where the source compares
pointers to queues. -/

namespace TptChassis.Sim
open Slices Bus SomeIp

variable {ν φ : Type}

/-- A network whose nodes carry frames of type `φ`; with each queue the list may
keep something about its node. -/
structure Network (ν φ : Type) where
  nodes : List (ν × List φ)
  down : Bool
deriving DecidableEq

namespace Network

def new : Network ν φ := ⟨[], false⟩

def setDown (network : Network ν φ) (down : Bool) : Network ν φ := { network with down }

/-- Attaches a node, which starts with an empty queue. -/
def node (network : Network ν φ) (mark : ν) : Nat × Network ν φ :=
  (network.nodes.length, { network with nodes := network.nodes ++ [(mark, [])] })

/-- Appends a frame to the queue of every node but the sender; a full queue drops it. -/
def broadcast (capacity : Nat) (network : Network ν φ) (frame : φ) (sender : Nat) : Network ν φ :=
  if network.down then network
  else
    let nodes := network.nodes.mapIdx fun index node =>
      if index ≠ sender then
        if node.2.length < capacity then (node.1, node.2 ++ [frame]) else node
      else node
    { network with nodes }

def send (capacity : Nat) (network : Network ν φ) (sender : Nat) (frame : φ) : Except BusError Unit × Network ν φ :=
  if network.down then (.error .busOff, network)
  else (.ok (), network.broadcast capacity frame sender)

/-- Takes the oldest frame from the node's own queue. -/
def recv (network : Network ν φ) (node : Nat) : Except BusError φ × Network ν φ :=
  match network.nodes[node]? with
  | some (mark, frame :: rest) => (.ok frame, { network with nodes := network.nodes.set node (mark, rest) })
  | _ => (.error .rxQueueEmpty, network)

def hasReceived (network : Network ν φ) (node : Nat) : Bool :=
  match network.nodes[node]? with
  | some (_, _ :: _) => true
  | _ => false

def canSend (network : Network ν φ) : Bool := !network.down

/-- A node as a transceiver of the network it is attached to. -/
def transceiver (capacity node : Nat) : Transceiver (Network ν φ) φ where
  send network frame := some (network.send capacity node frame)
  recv network := some (network.recv node)
  hasReceived network := network.hasReceived node
  canSend := Network.canSend

end Network

def simRxQueueLen : Nat := 16

abbrev SimCanNetwork := Network Unit CanFrame

namespace SimCanNetwork

def new : SimCanNetwork := Network.new
def setBusOff (network : SimCanNetwork) (off : Bool) : SimCanNetwork := network.setDown off
def node (network : SimCanNetwork) (mark : Unit) : Nat × SimCanNetwork := Network.node network mark

end SimCanNetwork

namespace SimCanNode

def send (network : SimCanNetwork) (sender : Nat) (frame : CanFrame) : Except BusError Unit × SimCanNetwork :=
  network.send simRxQueueLen sender frame
def recv (network : SimCanNetwork) (node : Nat) : Except BusError CanFrame × SimCanNetwork := Network.recv network node
def transceiver (node : Nat) : Transceiver SimCanNetwork CanFrame := Network.transceiver simRxQueueLen node

/-- `CanBus::new(net.node())` -/
abbrev bus (node : Nat) : VehicleBus SimCanNetwork CanFrame := canBus (transceiver node)

end SimCanNode

/-- `CanId::standard(raw).unwrap()`, and a frame made with it. -/
def standardFrame (raw : UInt32) (data : List UInt8) : Checked CanFrame := do
  let id ← CanId.newStandard raw
  let frame ← CanFrame.new id data
  frame

/-- `unwrap` of what a bus returns. -/
def unwrap {α σ : Type} : Except BusError α × σ → Checked (α × σ)
  | (.ok value, state) => some (value, state)
  | (.error _, _) => none

def simLinRxQueueLen : Nat := 16

/-- With each queue stands whether its node is the master. -/
abbrev SimLinCluster := Network Bool LinFrame

namespace SimLinCluster

def new : SimLinCluster := Network.new
def setBusOff (network : SimLinCluster) (off : Bool) : SimLinCluster := network.setDown off
def node (network : SimLinCluster) (isMaster : Bool) : Nat × SimLinCluster := Network.node network isMaster

end SimLinCluster

namespace SimLinNode

def send (network : SimLinCluster) (sender : Nat) (frame : LinFrame) : Except BusError Unit × SimLinCluster :=
  network.send simLinRxQueueLen sender frame
def recv (network : SimLinCluster) (node : Nat) : Except BusError LinFrame × SimLinCluster := Network.recv network node

/-- The node keeps its own copy of the mark it was attached with. -/
def transceiver (node : Nat) (isMaster : Bool) : LinTransceiver SimLinCluster where
  toTransceiver := Network.transceiver simLinRxQueueLen node
  isMaster _ := isMaster

end SimLinNode

def simSomeIpRxQueueLen : Nat := 16

abbrev SimSomeIpNetwork := Network Unit SomeIpMessage

namespace SimSomeIpNetwork

def new : SimSomeIpNetwork := Network.new
def setLinkDown (network : SimSomeIpNetwork) (down : Bool) : SimSomeIpNetwork := network.setDown down
def node (network : SimSomeIpNetwork) (mark : Unit) : Nat × SimSomeIpNetwork := Network.node network mark

end SimSomeIpNetwork

namespace SimSomeIpNode

def send (network : SimSomeIpNetwork) (sender : Nat) (message : SomeIpMessage) :
    Except BusError Unit × SimSomeIpNetwork :=
  network.send simSomeIpRxQueueLen sender message
def recv (network : SimSomeIpNetwork) (node : Nat) : Except BusError SomeIpMessage × SimSomeIpNetwork :=
  Network.recv network node
def transceiver (node : Nat) : Transceiver SimSomeIpNetwork SomeIpMessage :=
  Network.transceiver simSomeIpRxQueueLen node

end SimSomeIpNode

/-- What can happen on a network, in any order. -/
inductive Event (ν φ : Type) where
  | node (mark : ν)
  | send (sender : Nat) (frame : φ)
  | recv (node : Nat)
  | setDown (down : Bool)

inductive Outcome (φ : Type) where
  | attached (node : Nat)
  | sent (result : Except BusError Unit)
  | received (result : Except BusError φ)
  | switched

/-- A network driven through the given methods. Only an attached node can be
called, so for others there is no step. -/
def machine (node : Network ν φ → ν → Nat × Network ν φ)
    (send : Network ν φ → Nat → φ → Except BusError Unit × Network ν φ)
    (recv : Network ν φ → Nat → Except BusError φ × Network ν φ) (setDown : Network ν φ → Bool → Network ν φ) :
    Machine (Network ν φ) (Event ν φ) (Outcome φ) where
  step network event :=
    match event with
    | .node mark =>
      let (index, network) := node network mark
      some (.attached index, network)
    | .send sender frame =>
      if sender < network.nodes.length then
        let (result, network) := send network sender frame
        some (.sent result, network)
      else none
    | .recv index =>
      if index < network.nodes.length then
        let (result, network) := recv network index
        some (.received result, network)
      else none
    | .setDown down => some (.switched, setDown network down)

def SimCanNetwork.machine : Machine SimCanNetwork (Event Unit CanFrame) (Outcome CanFrame) :=
  Sim.machine SimCanNetwork.node SimCanNode.send SimCanNode.recv SimCanNetwork.setBusOff

def SimLinCluster.machine : Machine SimLinCluster (Event Bool LinFrame) (Outcome LinFrame) :=
  Sim.machine SimLinCluster.node SimLinNode.send SimLinNode.recv SimLinCluster.setBusOff

def SimSomeIpNetwork.machine : Machine SimSomeIpNetwork (Event Unit SomeIpMessage) (Outcome SomeIpMessage) :=
  Sim.machine SimSomeIpNetwork.node SimSomeIpNode.send SimSomeIpNode.recv SimSomeIpNetwork.setLinkDown

/-- What can happen on a network whose nodes are driven through buses. -/
inductive BusEvent (ν φ : Type) where
  | node (mark : ν)
  | call (node : Nat) (call : BusCall φ)
  | setDown (down : Bool)

inductive BusOutcome (φ : Type) where
  | attached (node : Nat)
  | replied (reply : BusReply φ)
  | switched

/-- A network of buses; `bus` wraps the node of each number. -/
def busMachine (node : Network ν φ → ν → Nat × Network ν φ) (bus : Nat → VehicleBus (Network ν φ) φ)
    (setDown : Network ν φ → Bool → Network ν φ) : Machine (Network ν φ) (BusEvent ν φ) (BusOutcome φ) where
  step network event :=
    match event with
    | .node mark =>
      let (index, network) := node network mark
      some (.attached index, network)
    | .call index call =>
      if index < network.nodes.length then do
        let (reply, network) ← (bus index).machine.step network call
        return (.replied reply, network)
      else none
    | .setDown down => some (.switched, setDown network down)

def SimCanNetwork.busMachine : Machine SimCanNetwork (BusEvent Unit CanFrame) (BusOutcome CanFrame) :=
  Sim.busMachine SimCanNetwork.node (fun node => canBus (SimCanNode.transceiver node)) SimCanNetwork.setBusOff

/-- `masters` are the marks that the nodes keep. -/
def SimLinCluster.busMachine (masters : Nat → Bool) :
    Machine SimLinCluster (BusEvent Bool LinFrame) (BusOutcome LinFrame) :=
  Sim.busMachine SimLinCluster.node (fun node => (linBus (SimLinNode.transceiver node (masters node))).toVehicleBus)
    SimLinCluster.setBusOff

def SimSomeIpNetwork.busMachine : Machine SimSomeIpNetwork (BusEvent Unit SomeIpMessage) (BusOutcome SomeIpMessage) :=
  Sim.busMachine SimSomeIpNetwork.node (fun node => someIpBus (SimSomeIpNode.transceiver node))
    SimSomeIpNetwork.setLinkDown

end TptChassis.Sim
