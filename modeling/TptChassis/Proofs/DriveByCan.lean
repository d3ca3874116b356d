import TptChassis.AutonomyCan
import TptChassis.Proofs.SimTrips

/-! Driving over the bus is calling the stack. What the bus adds is a bound: a sample
is also queued at the actuator, where sixteen of them leave no room for a command. -/

namespace TptChassis.Proofs.DriveByCan
open Slices Words Bus Sim Autonomy AutonomyCan BusGate SimDelivery SimTrips

variable {S : Type}

/-- The bytes of a command. -/
def commandBytes (cmd : ControlCommand) : List UInt8 :=
  shortToBeBytes cmd.steerDeciDeg.toUInt16 ++ [cmd.throttlePct, cmd.brakePct, 0]

/-- The stack alone, and how many samples wait at the actuator. -/
structure Drive (S : Type) where
  samples : Nat
  stack : S

/-- The stack called directly. A command that finds no room is lost, and the actuator
that waits for it panics. -/
def driveMachine (S : Type) [AutonomyStack S] : Machine (Drive S) DriveEvent DriveOutcome where
  step drive event :=
    match event with
    | .sense value timestamp => do
      match ← AutonomyStack.ingest drive.stack { kind := .camera, timestamp, value } with
      | (.ok (), stack) => return (.sensed, { samples := min (drive.samples + 1) simRxQueueLen, stack })
      | (.error _, _) => none
    | .command state => do
      match ← AutonomyStack.nextCommand drive.stack state with
      | (.ok (some cmd), stack) =>
        if drive.samples < simRxQueueLen then return (.commanded (commandBytes cmd), { samples := 0, stack }) else none
      | _ => none

/-- Three nodes of a network, which may have others: nothing waits at the ECU, and at
the actuator wait frames that are no commands. -/
structure Wired (sensor ecu actuator : Nat) (network : SimCanNetwork) (samples : Nat) : Prop where
  apart : ecu ≠ sensor ∧ actuator ≠ sensor ∧ actuator ≠ ecu
  attached : sensor < network.nodes.length ∧ ecu < network.nodes.length ∧ actuator < network.nodes.length
  powered : network.down = false
  quiet : queue network ecu = []
  passive : ∀ frame ∈ queue network actuator, frame.id.raw ≠ 0x300
  count : (queue network actuator).length = samples
  bounded : samples ≤ simRxQueueLen

theorem waiting_eq (network : SimCanNetwork) (node : Nat) : waiting network node = (queue network node).length := by
  unfold waiting queue
  cases network.nodes[node]? <;> rfl

theorem recv_nothing {network : SimCanNetwork} {node : Nat} (attached : node < network.nodes.length)
    (nothing : queue network node = []) : network.recv node = (.error .rxQueueEmpty, network) := by
  have conducts := @recv_conducts _ _ 0 network node attached
  generalize network.recv node = result at conducts ⊢
  obtain ⟨answer, after⟩ := result
  cases conducts with
  | received _ found => cases nothing.symm.trans found
  | empty => rfl

/-- The loop stops at the first command in the queue, or has emptied it. -/
theorem drain_finds {network : SimCanNetwork} {actuator fuel : Nat} {frames : List CanFrame}
    (attached : actuator < network.nodes.length) (held : queue network actuator = frames) (enough : frames.length < fuel) :
    ∃ after, drain actuator fuel network = some (frames.find? (·.id.raw = 0x300), after) ∧
      queue after actuator = (frames.dropWhile (·.id.raw ≠ 0x300)).tail ∧
      (∀ other, other ≠ actuator → queue after other = queue network other) ∧ after.down = network.down ∧
      after.nodes.length = network.nodes.length := by
  induction frames generalizing network fuel with
  | nil =>
    obtain ⟨turns, rfl⟩ := Nat.exists_eq_succ_of_ne_zero (Nat.ne_of_gt enough)
    refine ⟨network, ?_, held, fun _ _ => rfl, rfl, rfl⟩
    simp only [drain, receive_eq, recv_nothing attached held]
    rfl
  | cons frame rest ih =>
    obtain ⟨turns, rfl⟩ := Nat.exists_eq_succ_of_ne_zero (Nat.ne_zero_of_lt enough)
    obtain ⟨next, taken, left, kept, still, same⟩ := recv_takes attached held
    by_cases command : frame.id.raw = 0x300
    · refine ⟨next, ?_, ?_, kept, still, same⟩
      · simp only [drain, receive_eq, taken, Option.bind_eq_bind, Option.bind_some, if_pos command]
        rw [List.find?_cons_of_pos (by simp [command])]
        rfl
      · rw [left, List.dropWhile_cons_of_neg (by simp [command])]
        rfl
    · obtain ⟨after, drained, ends, others, down, size⟩ := ih (same ▸ attached) left (Nat.lt_of_succ_lt_succ enough)
      refine ⟨after, ?_, ?_, ?_, down.trans still, size.trans same⟩
      · simp only [drain, receive_eq, taken, Option.bind_eq_bind, Option.bind_some, if_neg command, drained]
        rw [List.find?_cons_of_neg (by simp [command])]
      · rw [ends, List.dropWhile_cons_of_pos (by simp [command])]
      · intro other apart
        rw [others other apart, kept other apart]

/-- A frame sent while the bus is on, as each node sees it. -/
theorem send_spreads {network : SimCanNetwork} {sender : Nat} (frame : CanFrame) (on : network.down = false)
    (attached : sender < network.nodes.length) :
    ∃ after, network.send simRxQueueLen sender frame = (.ok (), after) ∧
      (∀ node, node ≠ sender → node < network.nodes.length → queue after node =
        if (queue network node).length < simRxQueueLen then queue network node ++ [frame] else queue network node) ∧
      queue after sender = queue network sender ∧ after.down = false ∧ after.nodes.length = network.nodes.length := by
  have conducts := @send_conducts _ _ simRxQueueLen _ _ frame attached
  generalize sent : network.send simRxQueueLen sender frame = result at conducts
  obtain ⟨answer, after⟩ := result
  cases conducts with
  | sent _ _ delivered kept same still =>
    refine ⟨after, rfl, ?_, kept sender (.inl rfl), still.trans on, length_marks same⟩
    intro node other present
    split
    next room => exact delivered node other present room
    next full => exact kept node (.inr (.inr (Nat.le_of_not_lt full)))
  | refused _ off => cases on.symm.trans off

theorem encodeCommand_eq (cmd : ControlCommand) :
    ∃ out, encodeCommand cmd = some out ∧ out.elements = commandBytes cmd := ⟨_, rfl, rfl⟩

section
variable {sensor ecu actuator samples : Nat} {network : SimCanNetwork}

theorem first_word (first second : UInt32) : wordAt (toBeBytes first ++ toBeBytes second) 0 = some first :=
  congrArg some (fromBeBytes_toBeBytes first)

theorem second_word (first second : UInt32) : wordAt (toBeBytes first ++ toBeBytes second) 4 = some second :=
  congrArg some (fromBeBytes_toBeBytes second)

/-- A sample on its way to the ECU. The actuator queues it too, if it has room. -/
theorem sample_arrives (wired : Wired sensor ecu actuator network samples) (value : Int32) (timestamp : TimestampMs) :
    ∃ first payload req sent incoming received, (Buffer.fill 8 0).copy 0 (toBeBytes value.toUInt32) = some first ∧
      first.copy 4 (toBeBytes timestamp) = some payload ∧ standardFrame 0x200 payload.elements = some req ∧
      (SimCanNode.bus sensor).transmit network req = some (.ok (), sent) ∧
      (SimCanNode.bus ecu).receive sent = some (.ok incoming, received) ∧
      incoming.payload = some (toBeBytes value.toUInt32 ++ toBeBytes timestamp) ∧
      Wired sensor ecu actuator received (min (samples + 1) simRxQueueLen) := by
  obtain ⟨sensorHas, ecuHas, actuatorHas⟩ := wired.attached
  obtain ⟨ecuApart, actuatorApart, distinct⟩ := wired.apart
  have short : (toBeBytes value.toUInt32 ++ toBeBytes timestamp).length ≤ canMaxDlc := Nat.le_refl 8
  obtain ⟨req, built, valid, carries, named⟩ := standardFrame_eq 0x200 (by decide) short
  obtain ⟨sent, sends, spread, own, powered, size⟩ := send_spreads req wired.powered sensorHas
  have arrived := spread ecu ecuApart ecuHas
  rw [wired.quiet, if_pos (by decide), List.nil_append] at arrived
  obtain ⟨received, takes, left, kept, still, same⟩ := recv_takes (size ▸ ecuHas) arrived
  have queued := (kept actuator distinct).trans (spread actuator actuatorApart actuatorHas)
  have count := wired.count
  have bounded := wired.bounded
  refine ⟨_, _, req, sent, req, received, rfl, rfl, built, ?_, ?_, carries, ?_⟩
  · rw [transmit_eq sensor network valid, sends]
  · rw [receive_eq, takes]
  · refine ⟨wired.apart, ?_, still.trans powered, left, ?_, ?_, Nat.min_le_right _ _⟩
    · rw [same, size]
      exact wired.attached
    · rw [queued]
      split
      · intro frame member
        rcases List.mem_append.mp member with before | here
        · exact wired.passive frame before
        · rw [List.mem_singleton.mp here, named]
          decide
      · exact wired.passive
    · rw [queued]
      split
      · rw [List.length_append, List.length_singleton]
        omega
      · omega

/-- A command on its way to the actuator, which finds it if it had room for it. -/
theorem command_arrives (wired : Wired sensor ecu actuator network samples) (cmd : ControlCommand) :
    ∃ payload frame sent found after, encodeCommand cmd = some payload ∧ standardFrame 0x300 payload.elements = some frame ∧
      (SimCanNode.bus ecu).transmit network frame = some (.ok (), sent) ∧
      drain actuator (waiting sent actuator + 1) sent = some (found, after) ∧ frame.payload = some (commandBytes cmd) ∧
      if samples < simRxQueueLen then found = some frame ∧ Wired sensor ecu actuator after 0 else found = none := by
  obtain ⟨sensorHas, ecuHas, actuatorHas⟩ := wired.attached
  obtain ⟨ecuApart, actuatorApart, distinct⟩ := wired.apart
  obtain ⟨payload, encoded, bytes⟩ := encodeCommand_eq cmd
  have short : (commandBytes cmd).length ≤ canMaxDlc := Nat.le_of_ble_eq_true rfl
  obtain ⟨frame, built, valid, carries, named⟩ := standardFrame_eq 0x300 (by decide) short
  obtain ⟨sent, sends, spread, own, powered, size⟩ := send_spreads frame wired.powered ecuHas
  obtain ⟨after, drained, left, kept, still, same⟩ := drain_finds (size ▸ actuatorHas) rfl (Nat.lt_succ_self _)
  rw [← waiting_eq] at drained
  have passes : ∀ other ∈ queue network actuator, decide (other.id.raw ≠ 0x300) = true :=
    fun other member => decide_eq_true (wired.passive other member)
  have unfound : (queue network actuator).find? (·.id.raw = 0x300) = none :=
    List.find?_eq_none.mpr fun other member matched => wired.passive other member (of_decide_eq_true matched)
  refine ⟨payload, frame, sent, _, after, encoded, bytes ▸ built, ?_, drained, carries, ?_⟩
  · rw [transmit_eq ecu network valid, sends]
  · rw [spread actuator distinct actuatorHas, wired.count] at left ⊢
    split
    next room =>
      have emptied : queue after actuator = [] := by
        rw [left, if_pos room, List.dropWhile_append_of_pos passes, List.dropWhile_cons_of_neg (by simp [named])]
        rfl
      refine ⟨?_, wired.apart, ?_, still.trans powered, ?_, ?_, ?_, Nat.zero_le _⟩
      · rw [List.find?_append, unfound, List.find?_cons_of_pos (by simp [named])]
        rfl
      · rw [same, size]
        exact wired.attached
      · rw [kept ecu (Ne.symm distinct), own, wired.quiet]
      · rw [emptied]
        exact fun frame nothing => absurd nothing List.not_mem_nil
      · rw [emptied]
        rfl
    next full => exact unfound

end

/-- The vehicle that a drive stands for. -/
def Related (sensor ecu actuator : Nat) (vehicle : Vehicle S) (drive : Drive S) : Prop :=
  Wired sensor ecu actuator vehicle.network drive.samples ∧ vehicle.stack = drive.stack

theorem wired_new (stack : S) : Related 0 1 2 (Vehicle.new stack) ⟨0, stack⟩ :=
  ⟨⟨by decide, ⟨Nat.lt_of_sub_eq_succ rfl, Nat.lt_of_sub_eq_succ rfl, Nat.lt_of_sub_eq_succ rfl⟩, rfl, rfl,
    fun _ nothing => absurd nothing List.not_mem_nil, rfl, Nat.zero_le _⟩, rfl⟩

variable [AutonomyStack S]

theorem step_agrees {sensor ecu actuator : Nat} {vehicle : Vehicle S} {drive : Drive S}
    (related : Related sensor ecu actuator vehicle drive) (event : DriveEvent) :
    Machine.Agree (Related sensor ecu actuator) ((Vehicle.machine S sensor ecu actuator).step vehicle event)
      ((driveMachine S).step drive event) := by
  obtain ⟨wired, same⟩ := related
  cases event with
  | sense value timestamp =>
    obtain ⟨first, payload, req, sent, incoming, received, copied, filled, built, sends, takes, carries, wired⟩ :=
      sample_arrives wired value timestamp
    simp only [Vehicle.machine, driveMachine, sense, copied, filled, built, sends, unwrap, takes, carries, first_word,
      second_word, Option.bind_eq_bind, Option.bind_some, Option.pure_def, ← same, Int32.toInt32_toUInt32]
    cases AutonomyStack.ingest vehicle.stack ⟨.camera, timestamp, value⟩ with
    | none => exact .panic
    | some result =>
      obtain ⟨answer, stack⟩ := result
      cases answer with
      | error => exact .panic
      | ok =>
        have kept : Related sensor ecu actuator ⟨received, stack⟩ ⟨min (drive.samples + 1) simRxQueueLen, stack⟩ := ⟨wired, rfl⟩
        exact .answer DriveOutcome.sensed kept
  | command state =>
    simp only [Vehicle.machine, driveMachine, command, Option.bind_eq_bind, Option.pure_def, ← same]
    cases AutonomyStack.nextCommand vehicle.stack state with
    | none => exact .panic
    | some result =>
      obtain ⟨answer, stack⟩ := result
      cases answer with
      | error => exact .panic
      | ok wanted =>
        cases wanted with
        | none => exact .panic
        | some cmd =>
          obtain ⟨payload, frame, sent, found, after, encoded, built, sends, drained, carries, reached⟩ :=
            command_arrives wired cmd
          simp only [encoded, built, sends, unwrap, drained, Option.bind_some]
          split at reached
          next room =>
            obtain ⟨rfl, wired⟩ := reached
            have kept : Related sensor ecu actuator ⟨after, stack⟩ ⟨0, stack⟩ := ⟨wired, rfl⟩
            rw [if_pos room, Option.bind_some, carries]
            exact .answer (DriveOutcome.commanded (commandBytes cmd)) kept
          next full =>
            rw [if_neg full, reached]
            exact .panic

/-- How the actuator reads the steering angle of a command. -/
def steerOf : List UInt8 → Option Int16
  | high :: low :: _ => some (shortFromBeBytes high low).toInt16
  | _ => none

/-- Driving any stack over the bus, through whatever samples and requests for commands,
is calling the stack itself: it gets the samples as they were taken, the actuator gets
its commands, and the run ends where a command finds sixteen samples at the actuator. -/
theorem can_drive_is_direct (stack : S) (events : List DriveEvent) :
    ((Vehicle.machine S 0 1 2).run (.new stack) events).map (fun result => (result.1, result.2.stack)) =
      ((driveMachine S).run ⟨0, stack⟩ events).map (fun result => (result.1, result.2.stack)) ∧
    ∀ cmd, steerOf (commandBytes cmd) = some cmd.steerDeciDeg ∧ (commandBytes cmd)[2]? = some cmd.throttlePct ∧
      (commandBytes cmd)[3]? = some cmd.brakePct := by
  refine ⟨?_, ?_⟩
  · have agree : Machine.Agree (Related 0 1 2) ((Vehicle.machine S 0 1 2).run (.new stack) events)
        ((driveMachine S).run ⟨0, stack⟩ events) :=
      Machine.run_agree events (fun event _ _ _ related => step_agrees related event) _ _ (wired_new stack)
    exact agree.map_eq Vehicle.stack Drive.stack fun _ _ related => related.2
  · intro cmd
    refine ⟨congrArg some ?_, rfl, rfl⟩
    rw [shortFromBeBytes_toBeBytes]
    exact Int16.toInt16_toUInt16 _

end TptChassis.Proofs.DriveByCan
