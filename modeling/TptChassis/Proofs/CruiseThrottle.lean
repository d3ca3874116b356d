import TptChassis.Proofs.LaneKeeping

/-! The throttle the lane keeper commands, compared with the quotient over the
integers. The stack multiplies by 100 in 32 bits before it divides. -/

namespace TptChassis.Proofs.CruiseThrottle
open Autonomy LaneKeeping

/-- The percentage of the cruise speed that is missing, rounded down. -/
def missing (cruise speed : Nat) : Nat := if speed < cruise then 100 * (cruise - speed) / cruise else 0

theorem missing_le (cruise speed : Nat) : missing cruise speed ≤ 100 := by
  unfold missing
  split
  · apply Nat.div_le_of_le_mul
    rw [Nat.mul_comm cruise]
    exact Nat.mul_le_mul_left 100 (Nat.sub_le cruise speed)
  · exact Nat.zero_le _

theorem missing_antitone (cruise : Nat) {speed faster : Nat} (slower : speed ≤ faster) :
    missing cruise faster ≤ missing cruise speed := by
  unfold missing
  split
  next below =>
    rw [if_pos (Nat.lt_of_le_of_lt slower below)]
    exact Nat.div_le_div_right (Nat.mul_le_mul_left 100 (Nat.sub_le_sub_left slower cruise))
  next => exact Nat.zero_le _

def Multiplies (cruise speed : UInt32) : Prop := cruise.toNat - speed.toNat ≤ 42949672

theorem Multiplies.faster {cruise speed faster : UInt32} (multiplies : Multiplies cruise speed) (slower : speed ≤ faster) :
    Multiplies cruise faster :=
  Nat.le_trans (Nat.sub_le_sub_left (UInt32.le_iff_toNat_le.mp slower) _) multiplies

theorem throttle_exact {stack : LaneKeepingStack} {state : VehicleState}
    (multiplies : Multiplies stack.cruiseCmps state.speedCmps) :
    ∃ throttle, stack.throttle state = some throttle ∧
      throttle.toNat = missing stack.cruiseCmps.toNat state.speedCmps.toNat := by
  unfold Multiplies at multiplies
  unfold LaneKeepingStack.throttle missing
  by_cases below : state.speedCmps < stack.cruiseCmps
  · have ordered := UInt32.lt_iff_toNat_lt.mp below
    have deficit : (stack.cruiseCmps - state.speedCmps).toNat = stack.cruiseCmps.toNat - state.speedCmps.toNat :=
      UInt32.toNat_sub_of_le _ _ (UInt32.le_of_lt below)
    have room : (stack.cruiseCmps - state.speedCmps).toNat * 100 < UInt32.size := by
      rw [deficit, UInt32.size]
      omega
    have product : ((stack.cruiseCmps - state.speedCmps) * 100).toNat =
        100 * (stack.cruiseCmps.toNat - state.speedCmps.toNat) := by
      rw [UInt32.toNat_mul]
      apply (Nat.mod_eq_of_lt room).trans
      rw [deficit, Nat.mul_comm]
    have positive : max stack.cruiseCmps 1 = stack.cruiseCmps := by
      have one : 1 ≤ stack.cruiseCmps := UInt32.le_iff_toNat_le.mpr (Nat.lt_of_le_of_lt (Nat.zero_le _) ordered)
      by_cases single : stack.cruiseCmps ≤ 1
      · exact (if_pos single).trans (UInt32.le_antisymm one single)
      · exact if_neg single
    have percentage := missing_le stack.cruiseCmps.toNat state.speedCmps.toNat
    rw [missing, if_pos ordered] at percentage
    rw [if_pos below, if_pos ordered, positive]
    refine ⟨_, if_pos room, ?_⟩
    rw [UInt32.toNat_toUInt8, UInt32.toNat_div, product]
    exact Nat.mod_eq_of_lt (Nat.lt_of_le_of_lt percentage (by omega))
  · rw [if_neg below, if_neg fun ordered => below (UInt32.lt_iff_toNat_lt.mpr ordered)]
    exact ⟨0, rfl, rfl⟩

theorem throttle_overflows {stack : LaneKeepingStack} {state : VehicleState}
    (exceeds : ¬ Multiplies stack.cruiseCmps state.speedCmps) : stack.throttle state = none := by
  unfold Multiplies at exceeds
  unfold LaneKeepingStack.throttle
  have ordered : state.speedCmps.toNat < stack.cruiseCmps.toNat := by omega
  have below : state.speedCmps < stack.cruiseCmps := UInt32.lt_iff_toNat_lt.mpr ordered
  have deficit : (stack.cruiseCmps - state.speedCmps).toNat = stack.cruiseCmps.toNat - state.speedCmps.toNat :=
    UInt32.toNat_sub_of_le _ _ (UInt32.le_of_lt below)
  rw [if_pos below]
  apply if_neg
  rw [deficit, UInt32.size]
  omega

def Lateral (call : StackCall) : Prop :=
  ∃ sample, call = .ingest sample ∧ (sample.kind = .camera ∨ sample.kind = .lidar)

/-- The stack cruises at this speed, and knows its offset whenever it is ready. -/
structure Cruises (cruise : UInt32) (stack : LaneKeepingStack) : Prop where
  cruise : stack.cruiseCmps = cruise
  ready : stack.ready = stack.lastOffsetCm.isSome

theorem new_cruises (gain : Int16) (cruise : UInt32) : Cruises cruise (.new gain cruise) := ⟨rfl, rfl⟩

theorem nextCommand_keeps {stack next : LaneKeepingStack} {state : VehicleState} {result}
    (called : AutonomyStack.nextCommand stack state = some (result, next)) : next = stack := by
  simp only [AutonomyStack.nextCommand] at called
  split at called
  next =>
    cases called
    rfl
  next =>
    split at called
    · cases called
      rfl
    · obtain ⟨throttle, _, same⟩ := Option.bind_eq_some_iff.mp called
      cases same
      rfl

theorem call_cases {stack next : LaneKeepingStack} {call : StackCall} {reply : StackReply}
    (called : (machine LaneKeepingStack).step stack call = some (reply, next)) :
    (Lateral call ∧ ∃ sample : SensorSample,
      next = { stack with lastOffsetCm := some sample.value, lastTimestamp := sample.timestamp, ready := true }) ∨
    (¬ Lateral call ∧ next = stack) := by
  cases call with
  | ingest sample =>
    by_cases lateral : sample.kind = .camera ∨ sample.kind = .lidar
    · cases (ingest_lateral stack lateral).symm.trans called
      exact .inl ⟨⟨sample, rfl, lateral⟩, sample, rfl⟩
    · have ignored : sample.kind ≠ .camera ∧ sample.kind ≠ .lidar := not_or.mp lateral
      simp only [machine, AutonomyStack.ingest, if_pos ignored] at called
      cases called
      refine .inr ⟨?_, rfl⟩
      intro given
      obtain ⟨_, same, kind⟩ := given
      cases same
      exact lateral kind
  | nextCommand state =>
    refine .inr ⟨?_, ?_⟩
    · intro given
      obtain ⟨_, same, _⟩ := given
      cases same
    · obtain ⟨result, commanded, same⟩ := Option.bind_eq_some_iff.mp called
      cases same
      exact nextCommand_keeps commanded
  | hasControl =>
    cases called
    refine .inr ⟨?_, rfl⟩
    intro given
    obtain ⟨_, same, _⟩ := given
    cases same

theorem reached_cruises {gain : Int16} {cruise : UInt32} {past : List (Step LaneKeepingStack StackCall StackReply)}
    {stack : LaneKeepingStack} (reached : (machine LaneKeepingStack).Reaches (.new gain cruise) past stack) :
    Cruises cruise stack ∧ ((∃ step ∈ past, Lateral step.input) → stack.lastOffsetCm.isSome = true) := by
  induction reached with
  | start =>
    refine ⟨new_cruises gain cruise, ?_⟩
    intro given
    obtain ⟨_, member, _⟩ := given
    cases member
  | call _ called ih =>
    obtain ⟨cruises, known⟩ := ih
    rcases call_cases called with ⟨_, sample, rfl⟩ | ⟨other, rfl⟩
    · exact ⟨⟨cruises.cruise, rfl⟩, fun _ => rfl⟩
    · refine ⟨cruises, ?_⟩
      intro given
      obtain ⟨step, member, lateral⟩ := given
      rcases List.mem_cons.mp member with rfl | before
      · exact absurd lateral other
      · exact known ⟨step, before, lateral⟩

theorem nextCommand_throttle {stack : LaneKeepingStack} {offset : Int32} (known : stack.lastOffsetCm = some offset)
    (ready : stack.ready = true) (state : VehicleState) :
    (machine LaneKeepingStack).step stack (.nextCommand state) = (stack.throttle state).map fun throttle =>
      (.commanded (.ok (some (.new (ControlCommand.clampSteer (saturatingMul offset.toInt16 stack.gain)) throttle 0
        stack.lastTimestamp))), stack) := by
  simp only [machine, AutonomyStack.nextCommand, known, ready]
  cases stack.throttle state <;> rfl

/-- The stack gives this command, with the throttle that is missing to the cruise
speed. It was no more than a percentage before the command limited it, and at a
higher speed it is no larger. -/
structure ThrottlesExactly (cruise : UInt32) (stack : LaneKeepingStack) (state : VehicleState) (command : ControlCommand) :
    Prop where
  commanded : (machine LaneKeepingStack).step stack (.nextCommand state) = some (.commanded (.ok (some command)), stack)
  exact : command.throttlePct.toNat = missing cruise.toNat state.speedCmps.toNat
  unlimited : stack.throttle state = some command.throttlePct ∧ command.throttlePct ≤ 100
  decreasing : ∀ faster : VehicleState, state.speedCmps ≤ faster.speedCmps → ∃ other : ControlCommand,
    (machine LaneKeepingStack).step stack (.nextCommand faster) = some (.commanded (.ok (some other)), stack) ∧
      other.throttlePct ≤ command.throttlePct

private theorem throttle_commanded {stack : LaneKeepingStack} {offset : Int32} (known : stack.lastOffsetCm = some offset)
    (ready : stack.ready = true) {state : VehicleState} (multiplies : Multiplies stack.cruiseCmps state.speedCmps) :
    ∃ command : ControlCommand,
      (machine LaneKeepingStack).step stack (.nextCommand state) = some (.commanded (.ok (some command)), stack) ∧
        command.throttlePct.toNat = missing stack.cruiseCmps.toNat state.speedCmps.toNat ∧
        stack.throttle state = some command.throttlePct := by
  obtain ⟨throttle, computed, exact⟩ := throttle_exact multiplies
  have bounded : throttle ≤ 100 := UInt8.le_iff_toNat_le.mpr (exact ▸ missing_le _ _)
  have kept : min throttle 100 = throttle := if_pos bounded
  have commanded := nextCommand_throttle known ready state
  rw [computed] at commanded
  refine ⟨_, commanded, ?_, ?_⟩
  · exact (congrArg UInt8.toNat kept).trans exact
  · exact computed.trans (congrArg some kept.symm)

/-- Once a lateral sample is known the throttle is exact exactly when the speed
missing to the cruise speed is at most 42949672. -/
theorem throttle_exact_iff {gain : Int16} {cruise : UInt32} {past : List (Step LaneKeepingStack StackCall StackReply)}
    {stack : LaneKeepingStack} (reached : (machine LaneKeepingStack).Reaches (.new gain cruise) past stack)
    (sampled : ∃ step ∈ past, Lateral step.input) (state : VehicleState) :
    (∃ command, ThrottlesExactly cruise stack state command) ↔ cruise.toNat - state.speedCmps.toNat ≤ 42949672 := by
  obtain ⟨cruises, knows⟩ := reached_cruises reached
  obtain ⟨offset, known⟩ := Option.isSome_iff_exists.mp (knows sampled)
  have ready : stack.ready = true := cruises.ready.trans (knows sampled)
  cases cruises.cruise
  constructor
  · intro given
    obtain ⟨command, throttles⟩ := given
    by_contra exceeds
    have commanded := throttles.commanded
    rw [nextCommand_throttle known ready, throttle_overflows exceeds] at commanded
    cases commanded
  · intro multiplies
    obtain ⟨command, commanded, exact, computed⟩ := throttle_commanded known ready multiplies
    refine ⟨command, commanded, exact, ⟨computed, UInt8.le_iff_toNat_le.mpr (exact ▸ missing_le _ _)⟩, ?_⟩
    intro faster slower
    obtain ⟨other, commanded', exact', _⟩ := throttle_commanded known ready (Multiplies.faster multiplies slower)
    refine ⟨other, commanded', UInt8.le_iff_toNat_le.mpr ?_⟩
    rw [exact, exact']
    exact missing_antitone _ (UInt32.le_iff_toNat_le.mp slower)

private theorem sampled_reaches (gain : Int16) (cruise : UInt32) :
    ∃ past, (machine LaneKeepingStack).Reaches (.new gain cruise) past ⟨some 20, 1, true, gain, cruise⟩ ∧
      ∃ step ∈ past, Lateral step.input :=
  ⟨_, .call .start (ingest_lateral _ (.inl rfl)), _, List.mem_cons_self, ⟨.camera, 1, 20⟩, rfl, .inl rfl⟩

theorem throttle_exact_quarter :
    ∃ command, ThrottlesExactly 1000 ⟨some 20, 1, true, 10, 1000⟩ ⟨250, 2⟩ command ∧ command.throttlePct = 75 := by
  obtain ⟨past, reached, sampled⟩ := sampled_reaches 10 1000
  obtain ⟨command, throttles⟩ := (throttle_exact_iff reached sampled ⟨250, 2⟩).mpr (by decide)
  exact ⟨command, throttles, UInt8.toNat_inj.mp throttles.exact⟩

/-- From standstill to a cruise speed of 50000000 the product overflows. -/
theorem throttle_overflow :
    ¬ ∀ (gain : Int16) (cruise : UInt32) (past : List (Step LaneKeepingStack StackCall StackReply)) (stack : LaneKeepingStack),
      (machine LaneKeepingStack).Reaches (.new gain cruise) past stack → (∃ step ∈ past, Lateral step.input) →
      ∀ state, ∃ command, ThrottlesExactly cruise stack state command := by
  intro claimed
  obtain ⟨past, reached, sampled⟩ := sampled_reaches 10 50000000
  obtain ⟨command, throttles⟩ := claimed _ _ _ _ reached sampled ⟨0, 2⟩
  have commanded := throttles.commanded
  have exceeds : ¬ Multiplies 50000000 0 := Nat.not_le.mpr (by decide)
  rw [nextCommand_throttle rfl rfl, throttle_overflows exceeds] at commanded
  cases commanded

end TptChassis.Proofs.CruiseThrottle
