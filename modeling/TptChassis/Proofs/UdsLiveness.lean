import TptChassis.Proofs.UdsEffects

/-! The watchdog. It runs only while a liveness window is open, and only a
TesterPresent request opens one, so a session that was elevated without one is
never ended by ticks. -/

namespace TptChassis.Proofs.UdsLiveness
open Uds UdsEffects Slices

variable {D : Type}

def Disarmed (server : UdsServer D) : Prop := server.session = .default ∧ server.security = .locked

/-- The liveness window is at most as long as the timeout. -/
def Windowed (server : UdsServer D) : Prop :=
  ∀ left, server.testerPresentPending = some left → left.toNat ≤ testerPresentTimeout.toNat

theorem ticks_windowed {server after : UdsServer D} {disarmed : Bool} (windowed : Windowed server)
    (ticks : Ticks server disarmed after) : Windowed after := by
  cases ticks with
  | ends =>
    intro left opened
    cases opened
  | shortens opened shorter =>
    intro left same
    cases same
    have bound := windowed _ opened
    omega
  | idle => exact windowed

section
variable [UdsDataProvider D]

theorem handles_windowed {server : UdsServer D} {request response : List UInt8} {handled : Handled D}
    (windowed : Windowed server) (handles : Handles server request response handled) : Windowed handled.server := by
  cases handles with
  | held =>
    intro left same
    cases same
    exact Nat.le_refl _
  | refused => exact (refuse_server server response _ _).symm ▸ windowed
  | rejected =>
    rw [rejected_server]
    exact windowed
  | _ => exact windowed

theorem run_windowed {data : D} {events : List Event} {outcomes} {server : UdsServer D}
    (ran : (machine D).run (UdsServer.new data) events = some (outcomes, server)) : Windowed server := by
  apply Machine.run_invariant ran
  · intro left opened
    cases opened
  · intro before event outcome after windowed happened
    rcases event_cases happened with ⟨_, _, _, _, handles, _, rfl⟩ | ⟨_, _, _, ticks⟩
    · exact handles_windowed windowed handles
    · exact ticks_windowed windowed ticks

theorem ticks_idle {server : UdsServer D} (closed : server.testerPresentPending = none) (count : Nat) :
    (machine D).run server (List.replicate count .tick) = some (List.replicate count (.ticked false), server) := by
  have tick : (machine D).step server .tick = some (.ticked false, server) := by
    simp only [machine, tick_idle closed]
  induction count with
  | zero => rfl
  | succ count ih =>
    rw [List.replicate_succ, Machine.run_cons _ tick, ih]
    rfl

theorem ticks_end {server : UdsServer D} {left : UInt8} {count : Nat}
    (opened : server.testerPresentPending = some left) (ticked : 0 < count) (enough : left.toNat ≤ count) :
    ∃ outcomes, (machine D).run server (List.replicate count .tick) = some (outcomes, server.disarm) := by
  induction count generalizing server left with
  | zero => cases ticked
  | succ count ih =>
    have tick : (machine D).step server .tick = some (.ticked server.tick.1, server.tick.2) := rfl
    have ticks := tick_cases server
    rw [List.replicate_succ, Machine.run_cons _ tick]
    generalize server.tick.1 = disarmed at ticks ⊢
    generalize server.tick.2 = after at ticks ⊢
    cases ticks with
    | ends =>
      rw [ticks_idle rfl]
      exact ⟨_, rfl⟩
    | @shortens _ next still shorter more =>
      cases still.symm.trans opened
      have fewer : next.toNat ≤ count := by omega
      have narrowed : { server with testerPresentPending := some next }.testerPresentPending = some next := rfl
      obtain ⟨outcomes, ran⟩ := ih narrowed (Nat.lt_of_lt_of_le more fewer) fewer
      rw [ran]
      exact ⟨_, rfl⟩
    | idle closed => cases closed.symm.trans opened

/-- When the last events are ticks, as many as the timeout or more, the session
ends in the default state, locked, exactly when a liveness window was open as
they began, or there was nothing to end. -/
theorem stalled_disarmed_iff (data : D) (events : List Event) (ticks : Nat) (enough : testerPresentTimeout.toNat ≤ ticks)
    {outcomes} {held : UdsServer D} (ran : (machine D).run (UdsServer.new data) events = some (outcomes, held)) :
    ∃ all after, (machine D).run (UdsServer.new data) (events ++ List.replicate ticks .tick) = some (all, after) ∧
      (Disarmed after ↔ held.isHeld = true ∨ Disarmed held) := by
  rw [Machine.run_append, ran, Option.bind_some]
  cases window : held.testerPresentPending with
  | none =>
    rw [ticks_idle window]
    refine ⟨_, held, rfl, .inr, ?_⟩
    intro either
    cases either with
    | inl open' =>
      rw [UdsServer.isHeld, window] at open'
      cases open'
    | inr disarmed => exact disarmed
  | some left =>
    have bound := run_windowed ran left window
    obtain ⟨later, ended⟩ := ticks_end window (Nat.lt_of_lt_of_le (by decide) enough) (Nat.le_trans bound enough)
    rw [ended]
    refine ⟨_, held.disarm, rfl, fun _ => .inl ?_, fun _ => ⟨rfl, rfl⟩⟩
    rw [UdsServer.isHeld, window]
    rfl

end

/-- An extended session with a TesterPresent request behind it ends. -/
theorem stalled_after_tester_present :
    ∃ all after, (machine MockData).run (UdsServer.new ⟨.fill 32 0⟩)
        ([.handle [0x10, 0x03] (List.replicate 10 0), .handle [0x3E, 0x00] (List.replicate 10 0)] ++
          List.replicate 5 .tick) = some (all, after) ∧ Disarmed after := by
  obtain ⟨all, after, ran, disarmed⟩ := stalled_disarmed_iff (MockData.mk (.fill 32 0))
    [.handle [0x10, 0x03] (List.replicate 10 0), .handle [0x3E, 0x00] (List.replicate 10 0)] 5 (by decide) rfl
  exact ⟨all, after, ran, disarmed.mpr (.inl rfl)⟩

/-- Without one it never does. -/
theorem stalled_extended :
    ¬ ∀ (D : Type) [UdsDataProvider D] (data : D) (events : List Event) (ticks : Nat),
        testerPresentTimeout.toNat ≤ ticks → ∀ outcomes after,
        (machine D).run (UdsServer.new data) (events ++ List.replicate ticks .tick) = some (outcomes, after) →
        Disarmed after := by
  intro claimed
  have ended := claimed MockData ⟨.fill 32 0⟩ [.handle [0x10, 0x03] (List.replicate 10 0)] 5 (by decide) _ _ rfl
  cases ended.1

end TptChassis.Proofs.UdsLiveness
