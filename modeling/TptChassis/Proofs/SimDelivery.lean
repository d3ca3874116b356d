import TptChassis.Sim

/-! What the simulated buses deliver. Each step says what becomes of every queue;
from that, by induction over the run, what a node has received and what still
waits for it are among the frames the others sent, in the order they sent them. -/

namespace TptChassis.Proofs.SimDelivery
open Bus SomeIp Sim

variable {ν φ : Type} {capacity : Nat}

def queue (network : Network ν φ) (node : Nat) : List φ := ((network.nodes[node]?).map Prod.snd).getD []

def marks (network : Network ν φ) : List ν := network.nodes.map Prod.fst

/-- What each event does to a network. -/
inductive Conducts (capacity : Nat) (before : Network ν φ) : Event ν φ → Outcome φ → Network ν φ → Prop where
  | attached (mark : ν) :
      Conducts capacity before (.node mark) (.attached before.nodes.length)
        { before with nodes := before.nodes ++ [(mark, [])] }
  | sent {sender frame after} (attached : sender < before.nodes.length) (powered : before.down = false)
      (delivered : ∀ node, node ≠ sender → node < before.nodes.length → (queue before node).length < capacity →
        queue after node = queue before node ++ [frame])
      (kept : ∀ node, node = sender ∨ before.nodes.length ≤ node ∨ capacity ≤ (queue before node).length →
        queue after node = queue before node)
      (same : marks after = marks before) (still : after.down = before.down) :
      Conducts capacity before (.send sender frame) (.sent (.ok ())) after
  | refused {sender frame} (attached : sender < before.nodes.length) (off : before.down = true) :
      Conducts capacity before (.send sender frame) (.sent (.error .busOff)) before
  | received {node frame after} (attached : node < before.nodes.length)
      (taken : queue before node = frame :: queue after node)
      (kept : ∀ other, other ≠ node → queue after other = queue before other)
      (same : marks after = marks before) (still : after.down = before.down) :
      Conducts capacity before (.recv node) (.received (.ok frame)) after
  | empty {node} (attached : node < before.nodes.length) (nothing : queue before node = []) :
      Conducts capacity before (.recv node) (.received (.error .rxQueueEmpty)) before
  | switched (down : Bool) : Conducts capacity before (.setDown down) .switched { before with down }

theorem queue_outside {network : Network ν φ} {node : Nat} (outside : network.nodes.length ≤ node) :
    queue network node = [] := by
  rw [queue, List.getElem?_eq_none outside]
  rfl

theorem queue_inside {network : Network ν φ} {node : Nat} {mark : ν} {waiting : List φ}
    (held : network.nodes[node]? = some (mark, waiting)) : queue network node = waiting := by
  rw [queue, held]
  rfl

theorem broadcast_nodes (before : Network ν φ) (frame : φ) (sender node : Nat) (powered : before.down = false) :
    (before.broadcast capacity frame sender).nodes[node]? =
      (before.nodes[node]?).map fun entry =>
        if node ≠ sender then
          if entry.2.length < capacity then (entry.1, entry.2 ++ [frame]) else entry
        else entry := by
  rw [Network.broadcast, powered, if_neg Bool.false_ne_true]
  exact List.getElem?_mapIdx

theorem queue_broadcast {before : Network ν φ} (frame : φ) {sender node : Nat} (powered : before.down = false)
    (other : node ≠ sender) (inside : node < before.nodes.length) (room : (queue before node).length < capacity) :
    queue (before.broadcast capacity frame sender) node = queue before node ++ [frame] := by
  have held : before.nodes[node]? = some (before.nodes[node].1, before.nodes[node].2) := List.getElem?_eq_getElem inside
  rw [queue_inside held] at room ⊢
  apply queue_inside
  rw [broadcast_nodes before frame sender node powered, held, Option.map_some, if_pos other, if_pos room]

theorem queue_broadcast_kept {before : Network ν φ} (frame : φ) {sender node : Nat} (powered : before.down = false)
    (apart : node = sender ∨ before.nodes.length ≤ node ∨ capacity ≤ (queue before node).length) :
    queue (before.broadcast capacity frame sender) node = queue before node := by
  by_cases outside : before.nodes.length ≤ node
  · rw [queue_outside outside, queue, broadcast_nodes before frame sender node powered, List.getElem?_eq_none outside]
    rfl
  have inside : node < before.nodes.length := Nat.lt_of_not_le outside
  have held : before.nodes[node]? = some (before.nodes[node].1, before.nodes[node].2) := List.getElem?_eq_getElem inside
  rw [queue_inside held] at apart ⊢
  apply queue_inside
  rw [broadcast_nodes before frame sender node powered, held, Option.map_some]
  split
  next other =>
    rcases apart with same | absent | full
    · exact absurd same other
    · exact absurd absent outside
    · rw [if_neg (Nat.not_lt.mpr full)]
  next => rfl

theorem marks_broadcast (before : Network ν φ) (frame : φ) (sender : Nat) :
    marks (before.broadcast capacity frame sender) = marks before := by
  unfold Network.broadcast
  split
  · rfl
  · apply List.ext_getElem?
    intro index
    simp only [marks, List.getElem?_map, List.getElem?_mapIdx]
    cases before.nodes[index]? with
    | none => rfl
    | some entry =>
      simp only [Option.map_some]
      split
      · split
        · rfl
        · rfl
      · rfl

theorem down_broadcast (before : Network ν φ) (frame : φ) (sender : Nat) :
    (before.broadcast capacity frame sender).down = before.down := by
  unfold Network.broadcast
  split
  · rfl
  · rfl

theorem send_conducts {before : Network ν φ} {sender : Nat} (frame : φ) (attached : sender < before.nodes.length) :
    Conducts capacity before (.send sender frame) (.sent (before.send capacity sender frame).1)
      (before.send capacity sender frame).2 := by
  unfold Network.send
  split
  next off => exact .refused attached off
  next on =>
    have powered : before.down = false := Bool.eq_false_iff.mpr on
    refine .sent attached powered ?_ ?_ (marks_broadcast ..) (down_broadcast ..)
    · intro node other inside room
      exact queue_broadcast frame powered other inside room
    · intro node apart
      exact queue_broadcast_kept frame powered apart

theorem recv_conducts {before : Network ν φ} {node : Nat} (attached : node < before.nodes.length) :
    Conducts capacity before (.recv node) (.received (before.recv node).1) (before.recv node).2 := by
  unfold Network.recv
  split
  next mark frame rest held =>
    refine .received attached ?_ ?_ ?_ rfl
    · rw [queue_inside held, queue_inside (List.getElem?_set_self attached)]
    · intro other different
      simp only [queue, List.getElem?_set_ne (Ne.symm different)]
    · apply List.ext_getElem?
      intro index
      simp only [marks, List.getElem?_map]
      by_cases here : index = node
      · rw [here, List.getElem?_set_self attached, held]
        rfl
      · rw [List.getElem?_set_ne (Ne.symm here)]
  next nothing =>
    refine .empty attached ?_
    cases held : before.nodes[node]? with
    | none => exact queue_outside (List.getElem?_eq_none_iff.mp held)
    | some entry =>
      obtain ⟨mark, waiting⟩ := entry
      cases waiting with
      | nil => exact queue_inside held
      | cons frame rest => exact absurd held (nothing mark frame rest)

abbrev simulator (ν φ : Type) (capacity : Nat) : Machine (Network ν φ) (Event ν φ) (Outcome φ) :=
  Sim.machine Network.node (Network.send capacity) Network.recv Network.setDown

theorem step_conducts {before after : Network ν φ} {event : Event ν φ} {outcome : Outcome φ}
    (happened : (simulator ν φ capacity).step before event = some (outcome, after)) :
    Conducts capacity before event outcome after := by
  cases event with
  | node mark =>
    cases happened
    exact .attached mark
  | send sender frame =>
    simp only [simulator, Sim.machine] at happened
    split at happened
    next attached =>
      cases happened
      exact send_conducts frame attached
    next => cases happened
  | recv node =>
    simp only [simulator, Sim.machine] at happened
    split at happened
    next attached =>
      cases happened
      exact recv_conducts attached
    next => cases happened
  | setDown down =>
    cases happened
    exact .switched down

abbrev NetworkStep (ν φ : Type) := Step (Network ν φ) (Event ν φ) (Outcome φ)

/-- The frames a node has received, oldest first. Histories list the latest step first. -/
def received (node : Nat) : List (NetworkStep ν φ) → List φ
  | [] => []
  | step :: past =>
    match step.input, step.output with
    | .recv reader, .received (.ok frame) => if reader = node then received node past ++ [frame] else received node past
    | _, _ => received node past

/-- The frames that other nodes have sent, and the bus accepted, since the node
was attached, oldest first. -/
def sentByOthers (node : Nat) : List (NetworkStep ν φ) → List φ
  | [] => []
  | step :: past =>
    match step.input, step.output with
    | .send sender frame, .sent (.ok ()) =>
      if sender ≠ node ∧ node < step.before.nodes.length then sentByOthers node past ++ [frame]
      else sentByOthers node past
    | _, _ => sentByOthers node past

theorem queue_attached (before : Network ν φ) (mark : ν) (node : Nat) :
    queue { before with nodes := before.nodes ++ [(mark, [])] } node = queue before node := by
  by_cases inside : node < before.nodes.length
  · simp only [queue, List.getElem?_append_left inside]
  · have outside : before.nodes.length ≤ node := Nat.le_of_not_lt inside
    rw [queue_outside outside, queue, List.getElem?_append_right outside]
    cases node - before.nodes.length with
    | zero => rfl
    | succ => rfl

theorem conducts_bounded {before after : Network ν φ} {event : Event ν φ} {outcome : Outcome φ} {node : Nat}
    (bounded : (queue before node).length ≤ capacity) (conducts : Conducts capacity before event outcome after) :
    (queue after node).length ≤ capacity := by
  cases conducts with
  | attached mark => exact (queue_attached before mark node).symm ▸ bounded
  | @sent sender _ _ attached powered delivered kept =>
    by_cases reached : node ≠ sender ∧ node < before.nodes.length ∧ (queue before node).length < capacity
    · rw [delivered node reached.1 reached.2.1 reached.2.2, List.length_append, List.length_singleton]
      exact reached.2.2
    · rw [kept node (by omega)]
      exact bounded
  | refused => exact bounded
  | @received reader frame _ attached taken kept =>
    by_cases here : node = reader
    · rw [here] at bounded ⊢
      rw [taken, List.length_cons] at bounded
      exact Nat.le_of_succ_le bounded
    · rw [kept node here]
      exact bounded
  | empty => exact bounded
  | switched => exact bounded

/-- What a node has received, and what waits for it, are among the frames sent
by others, each at most once and in the order in which they were sent. -/
theorem conducts_ordered {before after : Network ν φ} {event : Event ν φ} {outcome : Outcome φ} {node : Nat}
    {past : List (NetworkStep ν φ)}
    (ordered : List.Sublist (received node past ++ queue before node) (sentByOthers node past))
    (conducts : Conducts capacity before event outcome after) :
    List.Sublist (received node (⟨before, event, outcome, after⟩ :: past) ++ queue after node)
      (sentByOthers node (⟨before, event, outcome, after⟩ :: past)) := by
  cases conducts with
  | attached mark =>
    rw [queue_attached]
    exact ordered
  | @sent sender frame _ attached powered delivered kept =>
    simp only [received, sentByOthers]
    by_cases reached : node ≠ sender ∧ node < before.nodes.length ∧ (queue before node).length < capacity
    · rw [delivered node reached.1 reached.2.1 reached.2.2, if_pos ⟨Ne.symm reached.1, reached.2.1⟩,
        ← List.append_assoc]
      exact ordered.append_right [frame]
    · rw [kept node (by omega)]
      split
      · exact ordered.trans (List.sublist_append_left _ _)
      · exact ordered
  | refused => exact ordered
  | @received reader frame _ attached taken kept =>
    simp only [received, sentByOthers]
    by_cases here : reader = node
    · rw [here] at taken
      rw [if_pos here, List.append_assoc, List.singleton_append, ← taken]
      exact ordered
    · rw [if_neg here, kept node (Ne.symm here)]
      exact ordered
  | empty => exact ordered
  | switched => exact ordered

/-- Delivery on one kind of network, along every run from an empty one. -/
structure Delivers (capacity : Nat) (machine : Machine (Network ν φ) (Event ν φ) (Outcome φ)) : Prop where
  steps : ∀ past network, machine.Reaches Network.new past network → ∀ step ∈ past,
    Conducts capacity step.before step.input step.output step.after
  bounded : ∀ past network, machine.Reaches Network.new past network → ∀ node,
    (queue network node).length ≤ capacity
  ordered : ∀ past network, machine.Reaches Network.new past network → ∀ node,
    List.Sublist (received node past ++ queue network node) (sentByOthers node past)

theorem simulator_delivers (ν φ : Type) (capacity : Nat) : Delivers capacity (simulator ν φ capacity) := by
  constructor
  · intro past network reached step member
    obtain ⟨earlier, _, happened⟩ := reached.called member
    exact step_conducts happened
  · intro past network reached node
    apply reached.invariant
    · exact Nat.zero_le _
    · intro before event outcome after bounded happened
      exact conducts_bounded bounded (step_conducts happened)
  · intro past network reached node
    induction reached with
    | start => exact List.nil_sublist _
    | call earlier happened ih => exact conducts_ordered ih (step_conducts happened)

/-- On all three buses, and in every order of attaching nodes, sending, receiving
and switching the bus off and on, an accepted frame reaches every other node with
room for it once, a refused send and an empty receive change nothing, no queue
outgrows its sixteen places, and every node receives in order what others sent. -/
theorem simulated_buses_deliver :
    Delivers simRxQueueLen SimCanNetwork.machine ∧ Delivers simLinRxQueueLen SimLinCluster.machine ∧
      Delivers simSomeIpRxQueueLen SimSomeIpNetwork.machine :=
  ⟨simulator_delivers Unit CanFrame 16, simulator_delivers Bool LinFrame 16, simulator_delivers Unit SomeIpMessage 16⟩

end TptChassis.Proofs.SimDelivery
