import TptChassis.Proofs.BusGate
import TptChassis.Proofs.SimDelivery

/-! The simulated networks driven through buses. What the buses let through is a
run of the network alone, so frames arrive as they do there, and are all valid. -/

namespace TptChassis.Proofs.SimBuses
open Bus SomeIp Sim BusGate SimDelivery

variable {ν φ : Type} {capacity : Nat} {validate : φ → Except BusError Unit} {valid : φ → Prop} [DecidablePred valid]

abbrev BusStep (ν φ : Type) := Step (Network ν φ) (BusEvent ν φ) (BusOutcome φ)

/-- The step of the network itself that a step of its buses comes to, if it is one. -/
def carried (valid : φ → Prop) [DecidablePred valid] : BusStep ν φ → Option (NetworkStep ν φ)
  | ⟨before, .node mark, .attached index, after⟩ => some ⟨before, .node mark, .attached index, after⟩
  | ⟨before, .call node (.transmit frame), .replied (.transmitted result), after⟩ =>
    if valid frame then some ⟨before, .send node frame, .sent result, after⟩ else none
  | ⟨before, .call node .receive, .replied (.received result), after⟩ => some ⟨before, .recv node, .received result, after⟩
  | ⟨before, .setDown down, .switched, after⟩ => some ⟨before, .setDown down, .switched, after⟩
  | _ => none

abbrev nodeBus (validate : φ → Except BusError Unit) (capacity node : Nat) : VehicleBus (Network ν φ) φ :=
  checkedBus validate (Network.transceiver capacity node)

abbrev buses (ν : Type) (validate : φ → Except BusError Unit) (capacity : Nat) :
    Machine (Network ν φ) (BusEvent ν φ) (BusOutcome φ) :=
  Sim.busMachine Network.node (nodeBus validate capacity) Network.setDown

/-- A step of the buses is a step of the network, or leaves the network alone. -/
theorem step_carried (checks : Checks validate valid) {before after : Network ν φ} {event : BusEvent ν φ}
    {outcome : BusOutcome φ} (happened : (buses ν validate capacity).step before event = some (outcome, after)) :
    (∃ input output, carried valid ⟨before, event, outcome, after⟩ = some ⟨before, input, output, after⟩ ∧
      (simulator ν φ capacity).step before input = some (output, after)) ∨
    (carried valid ⟨before, event, outcome, after⟩ = none ∧ after = before) := by
  cases event with
  | node mark =>
    cases happened
    exact .inl ⟨_, _, rfl, rfl⟩
  | setDown down =>
    cases happened
    exact .inl ⟨_, _, rfl, rfl⟩
  | call node call =>
    simp only [buses, Sim.busMachine] at happened
    split at happened
    next attached =>
      cases call with
      | transmit frame =>
        by_cases holds : valid frame
        · rw [step_admitted checks] at happened
          · cases happened
            refine .inl ⟨.send node frame, .sent (before.send capacity node frame).1, if_pos holds, ?_⟩
            exact if_pos attached
          · intro other same
            cases same
            exact holds
        · rw [step_refused checks _ _ holds] at happened
          cases happened
          exact .inr ⟨if_neg holds, rfl⟩
      | receive =>
        cases happened
        refine .inl ⟨.recv node, .received (before.recv node).1, rfl, ?_⟩
        exact if_pos attached
      | canReceive =>
        cases happened
        exact .inr ⟨rfl, rfl⟩
      | canTransmit =>
        cases happened
        exact .inr ⟨rfl, rfl⟩
    next => cases happened

theorem reaches_carried (checks : Checks validate valid) {past : List (BusStep ν φ)} {start network : Network ν φ}
    (reached : (buses ν validate capacity).Reaches start past network) :
    (simulator ν φ capacity).Reaches start (past.filterMap (carried valid)) network := by
  induction reached with
  | start => exact .start
  | call _ happened ih =>
    rcases step_carried checks happened with ⟨input, output, same, stepped⟩ | ⟨nothing, rfl⟩
    · rw [List.filterMap_cons_some same]
      exact .call ih stepped
    · rw [List.filterMap_cons_none nothing]
      exact ih

theorem carried_send {step : BusStep ν φ} {sent : NetworkStep ν φ} {sender : Nat} {frame : φ}
    (comes : carried valid step = some sent) (sends : sent.input = .send sender frame) : valid frame := by
  unfold carried at comes
  split at comes
  · cases comes
    cases sends
  · split at comes
    next holds =>
      cases comes
      cases sends
      exact holds
    next => cases comes
  · cases comes
    cases sends
  · cases comes
    cases sends
  · cases comes

theorem sent_valid {frame : φ} {node : Nat} (past : List (BusStep ν φ))
    (sent : frame ∈ sentByOthers node (past.filterMap (carried valid))) : valid frame := by
  have sends : ∀ steps : List (NetworkStep ν φ),
      (∀ step ∈ steps, ∀ sender other, step.input = .send sender other → valid other) →
        frame ∈ sentByOthers node steps → valid frame := by
    intro steps allowed sent
    induction steps with
    | nil => cases sent
    | cons step steps ih =>
      have later := ih fun step member => allowed step (List.mem_cons_of_mem _ member)
      unfold sentByOthers at sent
      split at sent
      next sender other sends accepted =>
        split at sent
        next =>
          rcases List.mem_append.mp sent with before | here
          · exact later before
          · rw [List.mem_singleton.mp here]
            exact allowed step List.mem_cons_self sender other sends
        next => exact later sent
      next => exact later sent
  apply sends _ ?_ sent
  intro step member sender other input
  obtain ⟨_, _, comes⟩ := List.mem_filterMap.mp member
  exact carried_send comes input

theorem canReceive_iff (network : Network ν φ) (node : Nat) :
    (nodeBus validate capacity node).canReceive network = true ↔
      ∃ frame after, (nodeBus validate capacity node).receive network = some (.ok frame, after) := by
  change network.hasReceived node = true ↔ ∃ frame after, some (network.recv node) = some (.ok frame, after)
  unfold Network.hasReceived Network.recv
  split
  next mark frame rest held => exact ⟨fun _ => ⟨_, _, rfl⟩, fun _ => rfl⟩
  next nothing =>
    refine ⟨fun told => (nomatch told), ?_⟩
    intro taken
    obtain ⟨_, _, taken⟩ := taken
    cases taken

theorem canTransmit_iff (checks : Checks validate valid) (network : Network ν φ) (node : Nat) {frame : φ}
    (holds : valid frame) :
    (nodeBus validate capacity node).canTransmit network = true ↔
      ∃ after, (nodeBus validate capacity node).transmit network frame = some (.ok (), after) := by
  have passes : (nodeBus validate capacity node).transmit network frame = some (network.send capacity node frame) := by
    simp only [nodeBus, checkedBus, checks frame, if_pos holds]
    rfl
  rw [passes]
  change (!network.down) = true ↔ _
  unfold Network.send
  cases network.down with
  | true =>
    refine ⟨fun told => absurd told Bool.false_ne_true, ?_⟩
    intro sent
    obtain ⟨_, sent⟩ := sent
    cases sent
  | false => exact ⟨fun _ => ⟨_, rfl⟩, fun _ => rfl⟩

/-- A network of buses, along every run from an empty one. What it does is what the
network does on the frames let through, which are all valid; nothing else arrives
anywhere; and the bus of a node tells beforehand how the next call will turn out. -/
structure Carries (valid : φ → Prop) [DecidablePred valid] (capacity : Nat)
    (machine : Machine (Network ν φ) (BusEvent ν φ) (BusOutcome φ)) (bus : Nat → VehicleBus (Network ν φ) φ) : Prop where
  refines : ∀ past network, machine.Reaches Network.new past network →
    (simulator ν φ capacity).Reaches Network.new (past.filterMap (carried valid)) network
  allowed : ∀ past network, machine.Reaches Network.new past network → ∀ node,
    ∀ frame ∈ received node (past.filterMap (carried valid)) ++ queue network node, valid frame
  ordered : ∀ past network, machine.Reaches Network.new past network → ∀ node,
    List.Sublist (received node (past.filterMap (carried valid)) ++ queue network node)
      (sentByOthers node (past.filterMap (carried valid)))
  readable : ∀ network node, (bus node).canReceive network = true ↔
    ∃ frame after, (bus node).receive network = some (.ok frame, after)
  writable : ∀ network node frame, valid frame → ((bus node).canTransmit network = true ↔
    ∃ after, (bus node).transmit network frame = some (.ok (), after))

theorem buses_carry (checks : Checks validate valid) :
    Carries valid capacity (buses ν validate capacity) (nodeBus validate capacity) := by
  constructor
  · intro past network reached
    exact reaches_carried checks reached
  · intro past network reached node frame member
    have arrived := (simulator_delivers ν φ capacity).ordered _ _ (reaches_carried checks reached) node
    exact sent_valid past (arrived.subset member)
  · intro past network reached node
    exact (simulator_delivers ν φ capacity).ordered _ _ (reaches_carried checks reached) node
  · exact canReceive_iff
  · intro network node frame holds
    exact canTransmit_iff checks network node holds

/-- On all three simulated networks, for every number of nodes and every order of
calls, bus faults and reads, the buses carry only valid frames and carry them as the
network does; what waits at a node is told by `can_receive`, a fault by `can_transmit`. -/
theorem simulated_buses_carry :
    Carries ValidCan simRxQueueLen SimCanNetwork.busMachine (fun node => canBus (SimCanNode.transceiver node)) ∧
    (∀ masters, Carries ValidLin simLinRxQueueLen (SimLinCluster.busMachine masters)
      (fun node => (linBus (SimLinNode.transceiver node (masters node))).toVehicleBus)) ∧
    Carries ValidSomeIp simSomeIpRxQueueLen SimSomeIpNetwork.busMachine
      (fun node => someIpBus (SimSomeIpNode.transceiver node)) :=
  ⟨buses_carry canFrame_checks, fun _ => buses_carry linFrame_checks, buses_carry message_checks⟩

end TptChassis.Proofs.SimBuses
