import Mathlib.Data.List.Induction
import TptChassis.Library.Wrappers
import TptChassis.Safety

/-! The interlock is a kill-switch in front of its stack, for whatever stack it
wraps and by whichever of its two interfaces it is called. -/

namespace TptChassis.Proofs.InterlockRefinement
open Safety Autonomy

/-- What the interlock is for. A disarmed switch withholds `nextCommand` and denies
control, and asks the stack for neither. -/
def killSwitch : Wrapper InterlockState InterlockCall InterlockReply StackCall StackReply where
  mode
    | _, .arm => .armed
    | _, .disarm => .disarmed
    | state, _ => state
  pass
    | _, .arm => none
    | _, .disarm => none
    | _, .ingest _ sample => some (.ingest sample)
    | .armed, .nextCommand _ state => some (.nextCommand state)
    | .disarmed, .nextCommand .. => none
    | .armed, .hasControl _ => some .hasControl
    | .disarmed, .hasControl _ => none
  answer
    | .disarmed, .nextCommand .., _ => .replied (.commanded (.ok none))
    | .disarmed, .hasControl _, _ => .replied (.controls false)
    | _, _, some reply => .replied reply
    | _, _, none => .switched

/-- The same switch, if it asked the stack for control while it is disarmed too. -/
def askingSwitch : Wrapper InterlockState InterlockCall InterlockReply StackCall StackReply where
  mode := killSwitch.mode
  pass
    | _, .hasControl _ => some .hasControl
    | state, call => killSwitch.pass state call
  answer := killSwitch.answer

/-- The latest arm or disarm among these calls. -/
def latestSwitch (calls : List InterlockCall) : Option InterlockCall :=
  (calls.filter (fun call => call = .arm ∨ call = .disarm)).getLast?

theorem armed_iff (calls : List InterlockCall) :
    killSwitch.modeAfter .disarmed calls = .armed ↔ latestSwitch calls = some .arm := by
  induction calls using List.reverseRecOn with
  | nil => exact ⟨nofun, nofun⟩
  | append_singleton earlier call ih =>
    unfold Wrapper.modeAfter latestSwitch at ih ⊢
    rw [List.foldl_concat, List.filter_append]
    cases call with
    | arm => simp [killSwitch]
    | disarm => simp [killSwitch]
    | ingest => simpa [killSwitch] using ih
    | nextCommand => simpa [killSwitch] using ih
    | hasControl => simpa [killSwitch] using ih

variable {S : Type u} [AutonomyStack S]

/-! The trait methods do what the inherent ones do. -/

theorem ingestBy_eq (path : Interlock.Path) : Interlock.ingestBy (S := S) path = Interlock.ingest := by
  cases path <;> rfl

theorem nextCommandBy_eq (path : Interlock.Path) :
    Interlock.nextCommandBy (S := S) path = Interlock.nextCommand := by
  cases path <;> rfl

theorem hasControlBy_eq (path : Interlock.Path) : Interlock.hasControlBy (S := S) path = Interlock.hasControl := by
  cases path <;> rfl

/-! One lemma for each method. -/

theorem ingest_eq (interlock : Interlock S) (sample : SensorSample) :
    interlock.ingest sample = (AutonomyStack.ingest interlock.stack sample).map
      (fun result => (result.1, { interlock with stack := result.2 })) := by
  rw [Interlock.ingest]
  cases AutonomyStack.ingest interlock.stack sample <;> rfl

theorem nextCommand_armed {interlock : Interlock S} (armed : interlock.state = .armed) (state : VehicleState) :
    interlock.nextCommand state = (AutonomyStack.nextCommand interlock.stack state).map
      (fun result => (result.1, { interlock with stack := result.2 })) := by
  rw [Interlock.nextCommand, if_neg (fun disarmed => disarmed armed)]
  cases AutonomyStack.nextCommand interlock.stack state <;> rfl

theorem nextCommand_disarmed {interlock : Interlock S} (disarmed : interlock.state = .disarmed) (state : VehicleState) :
    interlock.nextCommand state = some (.ok none, interlock) :=
  if_pos (by simp [disarmed])

theorem hasControl_armed {interlock : Interlock S} (armed : interlock.state = .armed) :
    interlock.hasControl = (AutonomyStack.hasControl interlock.stack).map
      (fun result => (result.1, { interlock with stack := result.2 })) := by
  rw [Interlock.hasControl, if_pos armed]
  cases AutonomyStack.hasControl interlock.stack <;> rfl

theorem hasControl_disarmed {interlock : Interlock S} (disarmed : interlock.state = .disarmed) :
    interlock.hasControl = some (false, interlock) :=
  if_neg (by simp [disarmed])

theorem call_arm (interlock : Interlock S) :
    ∃ events, interlock.call .arm = some (.switched, { interlock with state := .armed, events }) := by
  obtain ⟨events, recorded⟩ := interlock.events.push_progress ⟨0, telemetryArm, 1⟩ (Nat.succ_pos 7)
  exact ⟨events, by simp [Interlock.call, Interlock.arm, recorded]⟩

theorem call_disarm (interlock : Interlock S) :
    ∃ events, interlock.call .disarm = some (.switched, { interlock with state := .disarmed, events }) := by
  obtain ⟨events, recorded⟩ := interlock.events.push_progress ⟨0, telemetryDisarm, 1⟩ (Nat.succ_pos 7)
  exact ⟨events, by simp [Interlock.call, Interlock.disarm, recorded]⟩

/-- A call passed on does to the stack what it does without the interlock, and
leaves the interlock itself alone. -/
theorem call_passed (interlock : Interlock S) {call : InterlockCall} {behind : StackCall}
    (passes : killSwitch.pass interlock.state call = some behind) :
    killSwitch.mode interlock.state call = interlock.state ∧
      interlock.call call = ((Autonomy.machine S).step interlock.stack behind).map (fun result =>
        (killSwitch.answer interlock.state call (some result.1), { interlock with stack := result.2 })) := by
  obtain ⟨stack, position, events⟩ := interlock
  cases call with
  | arm => cases position <;> cases passes
  | disarm => cases position <;> cases passes
  | ingest path sample =>
    have same : killSwitch.pass position (.ingest path sample) = some (.ingest sample) := by cases position <;> rfl
    cases same.symm.trans passes
    refine ⟨by cases position <;> rfl, ?_⟩
    simp only [Interlock.call, ingestBy_eq, ingest_eq, Autonomy.machine]
    cases AutonomyStack.ingest stack sample with
    | none => rfl
    | some result => cases position <;> rfl
  | nextCommand path state =>
    cases position with
    | disarmed => cases passes
    | armed =>
      cases passes
      refine ⟨rfl, ?_⟩
      simp only [Interlock.call, nextCommandBy_eq, nextCommand_armed, Autonomy.machine]
      cases AutonomyStack.nextCommand stack state <;> rfl
  | hasControl path =>
    cases position with
    | disarmed => cases passes
    | armed =>
      cases passes
      refine ⟨rfl, ?_⟩
      simp only [Interlock.call, hasControlBy_eq, hasControl_armed, Autonomy.machine]
      cases AutonomyStack.hasControl stack <;> rfl

theorem call_withheld (interlock : Interlock S) {call : InterlockCall}
    (withheld : killSwitch.pass interlock.state call = none) :
    ∃ next, interlock.call call = some (killSwitch.answer interlock.state call none, next) ∧
      next.state = killSwitch.mode interlock.state call ∧ next.stack = interlock.stack := by
  cases call with
  | arm =>
    obtain ⟨events, called⟩ := call_arm interlock
    cases position : interlock.state <;> exact ⟨_, called, rfl, rfl⟩
  | disarm =>
    obtain ⟨events, called⟩ := call_disarm interlock
    cases position : interlock.state <;> exact ⟨_, called, rfl, rfl⟩
  | nextCommand path state =>
    cases position : interlock.state with
    | armed => cases position ▸ withheld
    | disarmed =>
      refine ⟨interlock, ?_, position, rfl⟩
      simp [Interlock.call, nextCommandBy_eq, nextCommand_disarmed position, killSwitch]
  | hasControl path =>
    cases position : interlock.state with
    | armed => cases position ▸ withheld
    | disarmed =>
      refine ⟨interlock, ?_, position, rfl⟩
      simp [Interlock.call, hasControlBy_eq, hasControl_disarmed position, killSwitch]
  | ingest path sample => cases position : interlock.state <;> cases position ▸ withheld

theorem wraps : killSwitch.Wraps (Safety.machine S) (Autonomy.machine S) Interlock.state Interlock.stack where
  withholds interlock _ withheld := call_withheld interlock withheld
  passes interlock _ _ passes reply after called := by
    obtain ⟨kept, answered⟩ := call_passed interlock passes
    rw [called] at answered
    exact ⟨{ interlock with stack := after }, answered, kept.symm, rfl⟩
  stops interlock _ _ passes panicked := by
    obtain ⟨_, answered⟩ := call_passed interlock passes
    rw [panicked] at answered
    exact answered

/-- Unless the latest switch was an arm, no interface of the interlock gives a
command or control. And whatever was called, the replies and the stack that is
left are those of the bare stack over the calls the kill-switch passes on. -/
theorem interlock_refines_stack (stack : S) (calls : List InterlockCall) :
    (∀ replies interlock, (Safety.machine S).run (Interlock.new stack) calls = some (replies, interlock) →
      latestSwitch calls ≠ some .arm → ∀ path,
        (∀ state, interlock.nextCommandBy path state = some (.ok none, interlock)) ∧
          interlock.hasControlBy path = some (false, interlock)) ∧
    ((Safety.machine S).run (Interlock.new stack) calls).map (fun result => (result.1, result.2.stack)) =
      ((Autonomy.machine S).run stack (killSwitch.passed .disarmed calls)).map
        (fun result => (killSwitch.answers .disarmed calls result.1, result.2)) := by
  constructor
  · intro replies interlock ran unarmed path
    have position : interlock.state = .disarmed := by
      have summary := wraps.run_mode ran
      cases mode : interlock.state with
      | armed => exact absurd ((armed_iff calls).mp (summary.symm.trans mode)) unarmed
      | disarmed => rfl
    rw [nextCommandBy_eq, hasControlBy_eq]
    exact ⟨nextCommand_disarmed position, hasControl_disarmed position⟩
  · have both := congrArg (Option.map (fun result => (result.1, result.2.2))) (wraps.run (Interlock.new stack) calls)
    rw [Option.map_map, Option.map_map] at both
    exact both

/-- The lane keeper has a command ready when it is cut off. -/
theorem interlock_refines_stack_after_disarm :
    ∃ replies interlock,
      (Safety.machine LaneKeepingStack).run (Interlock.new (.new 10 1000))
        [.arm, .ingest .trait ⟨.camera, 1, 20⟩, .nextCommand .inherent ⟨0, 1⟩, .disarm] = some (replies, interlock) ∧
      AutonomyStack.hasControl interlock.stack = some (true, interlock.stack) ∧
      interlock.nextCommandBy .trait ⟨0, 1⟩ = some (.ok none, interlock) ∧
      interlock.hasControlBy .inherent = some (false, interlock) := by
  have ran : (Safety.machine LaneKeepingStack).run (Interlock.new (.new 10 1000))
      [.arm, .ingest .trait ⟨.camera, 1, 20⟩, .nextCommand .inherent ⟨0, 1⟩, .disarm] = some (_, _) := rfl
  have cut := (interlock_refines_stack _ _).1 _ _ ran (by decide)
  exact ⟨_, _, ran, rfl, (cut .trait).1 _, (cut .inherent).2⟩

/-- A stack that keeps count, in a cell, of how often it is asked for control. -/
structure AskedStack where
  asked : Nat

instance : AutonomyStack AskedStack where
  ingest stack _ := some (.ok (), stack)
  nextCommand stack _ := some (.ok none, stack)
  hasControl stack := some (true, ⟨stack.asked + 1⟩)

/-- A disarmed interlock answers for its stack, where the bare stack counts the call. -/
theorem disarmed_unasked :
    ¬ ∀ (S : Type) [AutonomyStack S] (stack : S) (calls : List InterlockCall),
      ((Safety.machine S).run (Interlock.new stack) calls).map (fun result => (result.1, result.2.stack)) =
        ((Autonomy.machine S).run stack (askingSwitch.passed .disarmed calls)).map
          (fun result => (askingSwitch.answers .disarmed calls result.1, result.2)) := by
  intro claimed
  have asked := claimed AskedStack ⟨0⟩ [.hasControl .inherent]
  have counted := congrArg (Option.map fun result => result.2.asked) asked
  cases counted

end TptChassis.Proofs.InterlockRefinement
