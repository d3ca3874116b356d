import TptChassis.Library.Queues
import TptChassis.Proofs.SimDelivery

/-! What the simulated buses lose. A frame is dropped without notice by every node
whose queue is full when it is sent, and by no other. -/

namespace TptChassis.Proofs.SimLoss
open Bus SomeIp Sim SimDelivery Machine

variable {ν φ : Type} {capacity : Nat}

/-- The frame that a step offers to a node: one that another node sends. -/
def offered (node : Nat) (step : NetworkStep ν φ) : List φ :=
  match step.input, step.output with
  | .send sender frame, .sent (.ok ()) => if sender ≠ node ∧ node < step.before.nodes.length then [frame] else []
  | _, _ => []

/-- The frame that the node then keeps, for which it needs room. -/
def kept (capacity node : Nat) (step : NetworkStep ν φ) : List φ :=
  if capacity ≤ (queue step.before node).length then [] else offered node step

def taken (node : Nat) (step : NetworkStep ν φ) : List φ :=
  match step.input, step.output with
  | .recv reader, .received (.ok frame) => if reader = node then [frame] else []
  | _, _ => []

/-- A frame is sent to the node while its queue is full. -/
def Overruns (capacity node : Nat) (step : NetworkStep ν φ) : Prop :=
  offered node step ≠ [] ∧ capacity ≤ (queue step.before node).length

theorem sentByOthers_gathered (node : Nat) (past : List (NetworkStep ν φ)) :
    sentByOthers node past = gathered (offered node) past := by
  induction past with
  | nil => rfl
  | cons step past ih =>
    obtain ⟨before, input, output, after⟩ := step
    rw [gathered, ← ih]
    cases input with
    | send sender frame =>
      cases output with
      | sent result =>
        cases result with
        | ok =>
          simp only [sentByOthers, offered]
          split <;> simp
        | error => exact (List.append_nil _).symm
      | attached | received | switched => exact (List.append_nil _).symm
    | node | recv | setDown => exact (List.append_nil _).symm

theorem received_gathered (node : Nat) (past : List (NetworkStep ν φ)) :
    received node past = gathered (taken node) past := by
  induction past with
  | nil => rfl
  | cons step past ih =>
    obtain ⟨before, input, output, after⟩ := step
    rw [gathered, ← ih]
    cases input with
    | recv reader =>
      cases output with
      | received result =>
        cases result with
        | ok =>
          simp only [received, taken]
          split <;> simp
        | error => exact (List.append_nil _).symm
      | attached | sent | switched => exact (List.append_nil _).symm
    | node | send | setDown => exact (List.append_nil _).symm

theorem kept_sublist (node : Nat) (step : NetworkStep ν φ) :
    List.Sublist (kept capacity node step) (offered node step) := by
  unfold kept
  split
  · exact List.nil_sublist _
  · exact List.Sublist.refl _

theorem kept_eq_iff (node : Nat) (step : NetworkStep ν φ) :
    kept capacity node step = offered node step ↔ ¬ Overruns capacity node step := by
  unfold kept Overruns
  split
  next full =>
    constructor
    · intro same overruns
      exact overruns.1 same.symm
    · intro calm
      by_cases nothing : offered node step = []
      · exact nothing.symm
      · exact absurd ⟨nothing, full⟩ calm
  next room => exact ⟨fun _ overruns => room overruns.2, fun _ => rfl⟩

/-- Every step accounts for the queue of every node. -/
theorem conducts_kept {before after : Network ν φ} {event : Event ν φ} {outcome : Outcome φ} {node : Nat}
    (conducts : Conducts capacity before event outcome after) :
    queue before node ++ kept capacity node ⟨before, event, outcome, after⟩ =
      taken node ⟨before, event, outcome, after⟩ ++ queue after node := by
  cases conducts with
  | attached mark => simp [kept, offered, taken, queue_attached]
  | @sent sender frame _ attached powered delivered same =>
    simp only [kept, offered, taken, List.nil_append]
    by_cases reached : node ≠ sender ∧ node < before.nodes.length ∧ (queue before node).length < capacity
    · rw [delivered node reached.1 reached.2.1 reached.2.2, if_neg (Nat.not_le.mpr reached.2.2),
        if_pos ⟨Ne.symm reached.1, reached.2.1⟩]
    · rw [same node (by omega)]
      split
      · exact List.append_nil _
      · rw [if_neg (by omega), List.append_nil]
  | refused => simp [kept, offered, taken]
  | @received reader frame _ attached found same =>
    simp only [kept, offered, taken, ite_self, List.append_nil]
    by_cases here : reader = node
    · rw [if_pos here, ← here]
      exact found
    · rw [if_neg here, same node (Ne.symm here)]
      rfl
  | empty => simp [kept, offered, taken]
  | switched down =>
    simp only [kept, offered, taken, ite_self, List.append_nil, List.nil_append]
    rfl

theorem simulator_conserves (node : Nat) :
    (simulator ν φ capacity).Conserves (queue · node) (kept capacity node) (taken node) := by
  intro before event outcome after happened
  exact conducts_kept (step_conducts happened)

/-- Loss on one kind of network, along every run from an empty one. -/
structure Loses (capacity : Nat) (machine : Machine (Network ν φ) (Event ν φ) (Outcome φ)) : Prop where
  accounted : ∀ past network, machine.Reaches Network.new past network → ∀ node,
    received node past ++ queue network node = gathered (kept capacity node) past
  lossless : ∀ past network, machine.Reaches Network.new past network → ∀ node,
    (received node past ++ queue network node = sentByOthers node past ↔
      ∀ step ∈ past, ¬ Overruns capacity node step)

theorem simulator_loses (ν φ : Type) (capacity : Nat) : Loses capacity (simulator ν φ capacity) := by
  have accounted : ∀ past network, (simulator ν φ capacity).Reaches Network.new past network → ∀ node,
      received node past ++ queue network node = gathered (kept capacity node) past := by
    intro past network reached node
    rw [received_gathered, ← reached.conserved (simulator_conserves node)]
    rfl
  refine ⟨accounted, ?_⟩
  intro past network reached node
  rw [accounted past network reached node, sentByOthers_gathered,
    gathered_eq_iff past fun step _ => kept_sublist node step]
  exact forall₂_congr fun step _ => kept_eq_iff node step

/-- On all three buses, what a node has received and what waits for it are the frames
sent by others while its queue had room. It misses none of them exactly if its queue
was never full when another node sent. -/
theorem simulated_buses_lose :
    Loses simRxQueueLen SimCanNetwork.machine ∧ Loses simLinRxQueueLen SimLinCluster.machine ∧
      Loses simSomeIpRxQueueLen SimSomeIpNetwork.machine :=
  ⟨simulator_loses Unit CanFrame 16, simulator_loses Bool LinFrame 16, simulator_loses Unit SomeIpMessage 16⟩

end TptChassis.Proofs.SimLoss
