import TptChassis.Autonomy

/-! The steering angle the lane keeper commands, compared with the product of
offset and gain over the integers. The stack narrows the offset to 16 bits
before it multiplies, and only the product saturates. -/

namespace TptChassis.Proofs.LaneKeeping
open Autonomy

/-- An angle limited to what a command may carry. -/
def limited (angle : Int) : Int := max (-300) (min 300 angle)

theorem limited_sign (angle : Int) : (limited angle).sign = angle.sign := by
  unfold limited
  rcases Int.lt_trichotomy angle 0 with negative | rfl | positive
  · rw [Int.sign_eq_neg_one_of_neg negative, Int.sign_eq_neg_one_of_neg (by omega)]
  · rfl
  · rw [Int.sign_eq_one_of_pos positive, Int.sign_eq_one_of_pos (by omega)]

theorem limited_mono {angle other : Int} (below : angle ≤ other) : limited angle ≤ limited other := by
  unfold limited
  omega

/-- Beside an angle at the limit, two angles are limited alike only when the
other one is at the same limit. -/
theorem limited_eq_iff {angle other : Int} (extreme : 300 ≤ other.natAbs) :
    limited angle = limited other ↔ angle.sign = other.sign ∧ 300 ≤ angle.natAbs := by
  constructor
  · intro same
    refine ⟨?_, ?_⟩
    · rw [← limited_sign angle, same, limited_sign]
    · unfold limited at same
      omega
  · intro agrees
    obtain ⟨sign, far⟩ := agrees
    have same : (0 < angle ↔ 0 < other) := by
      rw [← Int.sign_eq_one_iff_pos, sign, Int.sign_eq_one_iff_pos]
    unfold limited
    omega

theorem clampSteer_limited (steer : Int16) : (ControlCommand.clampSteer steer).toInt = limited steer.toInt := by
  have top : ControlCommand.maxSteer.toInt = 300 := rfl
  have bottom : (-ControlCommand.maxSteer).toInt = -300 := by decide
  unfold ControlCommand.clampSteer limited
  simp only [Int16.lt_iff_toInt_lt, top, bottom]
  split
  · omega
  · split
    · omega
    · omega

theorem saturatingMul_toInt (first second : Int16) :
    (saturatingMul first second).toInt = max (-32768) (min 32767 (first.toInt * second.toInt)) := by
  generalize saturated : max (-32768) (min 32767 (first.toInt * second.toInt)) = value
  have branches : (if first.toInt * second.toInt < -32768 then -32768
      else if 32767 < first.toInt * second.toInt then 32767 else first.toInt * second.toInt) = value := by
    split
    · omega
    · split
      · omega
      · omega
  simp only [saturatingMul, branches]
  apply Int16.toInt_ofInt_of_le
  · omega
  · omega

/-- An integer as a conversion to `i16` leaves it. -/
def narrowed (offset : Int) : Int := (offset + 32768) % 65536 - 32768

theorem toInt16_narrowed (offset : Int32) : offset.toInt16.toInt = narrowed offset.toInt := by
  rw [Int32.toInt_toInt16, narrowed, Int.bmod]
  omega

theorem steer_narrowed (offset : Int32) (gain : Int16) (throttle brake : UInt8) (timestamp : TimestampMs) :
    (ControlCommand.new (ControlCommand.clampSteer (saturatingMul offset.toInt16 gain)) throttle brake
      timestamp).steerDeciDeg.toInt = limited (narrowed offset.toInt * gain.toInt) := by
  simp only [ControlCommand.new, clampSteer_limited, saturatingMul_toInt, toInt16_narrowed]
  unfold limited
  omega

/-- Steering for an offset and a gain as integers call for it. -/
structure SteersExactly (steer : Int16) (offset : Int32) (gain : Int16) : Prop where
  exact : steer.toInt = limited (offset.toInt * gain.toInt)
  sign : steer.toInt.sign = (offset.toInt * gain.toInt).sign
  monotone : 0 < gain.toInt → ∀ other : Int,
    (other ≤ offset.toInt → limited (other * gain.toInt) ≤ steer.toInt) ∧
    (offset.toInt ≤ other → steer.toInt ≤ limited (other * gain.toInt))

theorem steers_exactly_iff {steer : Int16} {offset : Int32} {gain : Int16} :
    SteersExactly steer offset gain ↔ steer.toInt = limited (offset.toInt * gain.toInt) := by
  constructor
  · intro steers
    exact steers.exact
  · intro same
    refine ⟨same, ?_, ?_⟩
    · rw [same, limited_sign]
    · intro positive other
      rw [same]
      refine ⟨?_, ?_⟩
      · intro below
        exact limited_mono (Int.mul_le_mul_of_nonneg_right below (Int.le_of_lt positive))
      · intro above
        exact limited_mono (Int.mul_le_mul_of_nonneg_right above (Int.le_of_lt positive))

/-- The offset fits 16 bits, or the gain is zero, or what narrowing leaves of the
offset has its sign and still turns the wheel as far as it goes. -/
def Survives (offset : Int32) (gain : Int16) : Prop :=
  (-32768 ≤ offset.toInt ∧ offset.toInt ≤ 32767) ∨ gain = 0 ∨
    ((narrowed offset.toInt).sign = offset.toInt.sign ∧ 300 ≤ (narrowed offset.toInt * gain.toInt).natAbs)

theorem limited_narrowed_iff (offset : Int32) (gain : Int16) :
    limited (narrowed offset.toInt * gain.toInt) = limited (offset.toInt * gain.toInt) ↔ Survives offset gain := by
  unfold Survives
  by_cases fits : -32768 ≤ offset.toInt ∧ offset.toInt ≤ 32767
  · have same : narrowed offset.toInt = offset.toInt := by
      unfold narrowed
      omega
    rw [same]
    exact ⟨fun _ => .inl fits, fun _ => rfl⟩
  by_cases still : gain = 0
  · rw [still, Int16.toInt_zero, Int.mul_zero, Int.mul_zero]
    exact ⟨fun _ => .inr (.inl rfl), fun _ => rfl⟩
  have moves : gain.toInt ≠ 0 := fun zero => still (Int16.toInt_inj.mp zero)
  have extreme : 300 ≤ (offset.toInt * gain.toInt).natAbs := by
    rw [Int.natAbs_mul]
    have far : 300 ≤ offset.toInt.natAbs := by omega
    have one : 1 ≤ gain.toInt.natAbs := Int.natAbs_pos.mpr moves
    exact Nat.mul_le_mul far one
  have cancel : (narrowed offset.toInt * gain.toInt).sign = (offset.toInt * gain.toInt).sign ↔
      (narrowed offset.toInt).sign = offset.toInt.sign := by
    rw [Int.sign_mul, Int.sign_mul]
    exact Int.mul_eq_mul_right_iff (fun zero => moves (Int.sign_eq_zero_iff_zero.mp zero))
  rw [limited_eq_iff extreme, cancel]
  constructor
  · intro agrees
    exact .inr (.inr agrees)
  · intro survives
    rcases survives with small | zero | agrees
    · exact absurd small fits
    · exact absurd zero still
    · exact agrees

theorem ingest_lateral (stack : LaneKeepingStack) {sample : SensorSample}
    (lateral : sample.kind = .camera ∨ sample.kind = .lidar) :
    (machine LaneKeepingStack).step stack (.ingest sample) = some (.ingested (.ok ()),
      { stack with lastOffsetCm := some sample.value, lastTimestamp := sample.timestamp, ready := true }) := by
  have taken : ¬ (sample.kind ≠ .camera ∧ sample.kind ≠ .lidar) := by
    intro other
    rcases lateral with camera | lidar
    · exact other.1 camera
    · exact other.2 lidar
  simp only [machine, AutonomyStack.ingest, if_neg taken]
  rfl

private theorem command_issued {stack after : LaneKeepingStack} {state : VehicleState} {offset : Int32} {reply}
    (known : stack.lastOffsetCm = some offset) (ready : stack.ready = true)
    (called : (machine LaneKeepingStack).step stack (.nextCommand state) = some (reply, after)) :
    ∃ throttle, reply = .commanded (.ok (some
      (.new (ControlCommand.clampSteer (saturatingMul offset.toInt16 stack.gain)) throttle 0 stack.lastTimestamp))) := by
  simp only [machine, AutonomyStack.nextCommand, known, ready] at called
  cases moderate : stack.throttle state with
  | none =>
    rw [moderate] at called
    cases called
  | some throttle =>
    rw [moderate] at called
    cases called
    exact ⟨throttle, rfl⟩

/-- From a camera or lidar sample the stack steers as exact arithmetic calls for
exactly when the offset survives the narrowing. -/
theorem steering_exact_iff (stack : LaneKeepingStack) (sample : SensorSample)
    (lateral : sample.kind = .camera ∨ sample.kind = .lidar) (state : VehicleState) (replies : List StackReply)
    (last : LaneKeepingStack)
    (ran : (machine LaneKeepingStack).run stack [.ingest sample, .nextCommand state] = some (replies, last)) :
    ∃ command, replies = [.ingested (.ok ()), .commanded (.ok (some command))] ∧
      (SteersExactly command.steerDeciDeg sample.value stack.gain ↔ Survives sample.value stack.gain) := by
  obtain ⟨_, _, _, ingested, ran, rfl⟩ := Machine.run_cases ran
  cases (ingest_lateral stack lateral).symm.trans ingested
  obtain ⟨reply, after, _, called, ended, rfl⟩ := Machine.run_cases ran
  cases ended
  obtain ⟨throttle, rfl⟩ := command_issued rfl rfl called
  refine ⟨_, rfl, ?_⟩
  rw [steers_exactly_iff, steer_narrowed]
  exact limited_narrowed_iff sample.value stack.gain

theorem steering_exact_ten_metres :
    (machine LaneKeepingStack).run (.new 10 1000) [.ingest ⟨.lidar, 1, 1000⟩, .nextCommand ⟨0, 1⟩] =
        some ([.ingested (.ok ()), .commanded (.ok (some ⟨300, 100, 0, 1⟩))], ⟨some 1000, 1, true, 10, 1000⟩) ∧
      SteersExactly 300 1000 10 := by
  have ran : (machine LaneKeepingStack).run (.new 10 1000) [.ingest ⟨.lidar, 1, 1000⟩, .nextCommand ⟨0, 1⟩] =
      some ([.ingested (.ok ()), .commanded (.ok (some ⟨300, 100, 0, 1⟩))], ⟨some 1000, 1, true, 10, 1000⟩) := rfl
  obtain ⟨command, issued, exact⟩ := steering_exact_iff (.new 10 1000) ⟨.lidar, 1, 1000⟩ (.inr rfl) ⟨0, 1⟩ _ _ ran
  cases issued
  exact ⟨ran, exact.mpr (.inl (by decide))⟩

/-- Four hundred metres to the right: the wheel turns left as far as it goes. -/
theorem steering_reversed :
    ¬ ∀ (stack : LaneKeepingStack) (sample : SensorSample), sample.kind = .camera ∨ sample.kind = .lidar →
      ∀ state replies last,
        (machine LaneKeepingStack).run stack [.ingest sample, .nextCommand state] = some (replies, last) →
        ∃ command, replies = [.ingested (.ok ()), .commanded (.ok (some command))] ∧
          SteersExactly command.steerDeciDeg sample.value stack.gain := by
  intro claimed
  have ran : (machine LaneKeepingStack).run (.new 1 1000) [.ingest ⟨.lidar, 1, 40000⟩, .nextCommand ⟨0, 1⟩] =
      some ([.ingested (.ok ()), .commanded (.ok (some ⟨-300, 100, 0, 1⟩))], ⟨some 40000, 1, true, 1, 1000⟩) := rfl
  obtain ⟨command, issued, steers⟩ := claimed (.new 1 1000) ⟨.lidar, 1, 40000⟩ (.inr rfl) ⟨0, 1⟩ _ _ ran
  cases issued
  exact absurd steers.exact (by decide)

end TptChassis.Proofs.LaneKeeping
