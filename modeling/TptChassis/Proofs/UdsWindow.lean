import TptChassis.Proofs.UdsSecurity

/-! The liveness window. It closes with the fifth tick after the TesterPresent
request that opened it, whatever is requested in between, a reset included. -/

namespace TptChassis.Proofs.UdsWindow
open Uds UdsEffects UdsSecurity Slices

variable {D : Type}

def Presents (step : ServerStep D) : Prop :=
  ∃ params response written accesses, step.input = .handle (0x3E :: params) response ∧
    step.output = .handled (some 2) written accesses

def ticks (past : List (ServerStep D)) : Nat := past.countP fun step => step.input = .tick

/-- What is left of the window after this many ticks. -/
def Remains (count : Nat) (server : UdsServer D) : Prop :=
  if count < testerPresentTimeout.toNat then
    ∃ left, server.testerPresentPending = some left ∧ left.toNat + count = testerPresentTimeout.toNat
  else server.testerPresentPending = none

section
variable {count : Nat} {server : UdsServer D}

theorem Remains.opened (remains : Remains count server) (early : count < testerPresentTimeout.toNat) :
    ∃ left, server.testerPresentPending = some left ∧ left.toNat + count = testerPresentTimeout.toNat := by
  rwa [Remains, if_pos early] at remains

theorem Remains.closed (remains : Remains count server) (late : ¬ count < testerPresentTimeout.toNat) :
    server.testerPresentPending = none := by
  rwa [Remains, if_neg late] at remains

theorem Remains.isHeld_iff (remains : Remains count server) :
    server.isHeld = true ↔ count < testerPresentTimeout.toNat := by
  by_cases early : count < testerPresentTimeout.toNat
  · obtain ⟨left, opened, _⟩ := remains.opened early
    simp only [UdsServer.isHeld, opened, Option.isSome_some, early]
  · simp only [UdsServer.isHeld, remains.closed early, Option.isSome_none, early, Bool.false_eq_true]

theorem Remains.tick_due (remains : Remains count server) (due : count + 1 = testerPresentTimeout.toNat) :
    server.tick = (true, server.disarm) := by
  obtain ⟨left, opened, sum⟩ := remains.opened (by omega)
  exact tick_ends opened (by omega)

theorem Remains.tick_other (remains : Remains count server) (other : count + 1 ≠ testerPresentTimeout.toNat) :
    server.tick.1 = false ∧ Remains (count + 1) server.tick.2 := by
  by_cases early : count < testerPresentTimeout.toNat
  · obtain ⟨left, opened, sum⟩ := remains.opened early
    obtain ⟨next, shorter, ticked⟩ := tick_shortens opened (by omega)
    rw [ticked]
    refine ⟨rfl, ?_⟩
    rw [Remains, if_pos (by omega)]
    exact ⟨next, rfl, by omega⟩
  · rw [tick_idle (remains.closed early)]
    refine ⟨rfl, ?_⟩
    rw [Remains, if_neg (by omega)]
    exact remains.closed early

theorem Remains.tick (remains : Remains count server) : Remains (count + 1) server.tick.2 := by
  by_cases due : count + 1 = testerPresentTimeout.toNat
  · rw [remains.tick_due due, Remains, if_neg (by omega)]
    rfl
  · exact (remains.tick_other due).2

theorem Remains.tick_iff (remains : Remains count server) :
    server.tick.1 = true ↔ count + 1 = testerPresentTimeout.toNat := by
  by_cases due : count + 1 = testerPresentTimeout.toNat
  · simp only [remains.tick_due due, due]
  · simp only [(remains.tick_other due).1, due, Bool.false_eq_true]

end

section
variable [UdsDataProvider D]

theorem handles_window {server : UdsServer D} {request response : List UInt8} {handled : Handled D}
    (handles : Handles server request response handled) :
    handled.server.testerPresentPending = server.testerPresentPending ∨
      ((∃ params, request = 0x3E :: params) ∧ handled.result = some 2) := by
  cases handles with
  | refused => exact .inl (by rw [refuse_server])
  | held asked => exact .inr ⟨⟨_, asked⟩, rfl⟩
  | rejected => exact .inl (by rw [rejected_server])
  | _ => exact .inl rfl

theorem presented_window {server : UdsServer D} {params response : List UInt8} {handled : Handled D}
    (presented : server.handle (0x3E :: params) response = some handled) (accepted : handled.result = some 2) :
    handled.server.testerPresentPending = some testerPresentTimeout := by
  change server.testerPresent params response = some handled at presented
  unfold UdsServer.testerPresent at presented
  split at presented
  · cases presented
    exact absurd accepted (refuse_result server response _ _)
  · obtain ⟨_, _, rfl⟩ := respond_some presented
    rfl

theorem reaches_remains {start server : UdsServer D} {past : List (ServerStep D)}
    (opened : start.testerPresentPending = some testerPresentTimeout) (reached : (machine D).Reaches start past server)
    (quiet : ∀ step ∈ past, ¬ Presents step) : Remains (ticks past) server := by
  induction reached with
  | start => exact ⟨_, opened, rfl⟩
  | @call past server event outcome after _ happened ih =>
    have remains := ih fun step member => quiet step (List.mem_cons_of_mem _ member)
    rcases event_cases happened with ⟨request, response, handled, rfl, handles, rfl, rfl⟩ | ⟨disarmed, rfl, rfl, _⟩
    · rcases handles_window handles with same | ⟨⟨params, rfl⟩, accepted⟩
      · have silent : ticks (⟨server, .handle request response, .handled handled.result handled.response handled.accesses,
            handled.server⟩ :: past) = ticks past := List.countP_cons_of_neg (by simp)
        rw [silent, Remains, same]
        exact remains
      · exact absurd ⟨params, response, handled.response, handled.accesses, rfl, by rw [accepted]⟩
          (quiet _ List.mem_cons_self)
    · have counted : ticks (⟨server, .tick, .ticked disarmed, after⟩ :: past) = ticks past + 1 :=
        List.countP_cons_of_pos (by simp)
      cases happened
      rw [counted]
      exact remains.tick

theorem ticks_reached (start : UdsServer D) (count : Nat) :
    ∃ past state, (machine D).Reaches start past state ∧ ticks past = count ∧ ∀ step ∈ past, ¬ Presents step := by
  induction count with
  | zero => exact ⟨[], start, .start, rfl, List.forall_mem_nil _⟩
  | succ count ih =>
    obtain ⟨past, state, reached, counted, quiet⟩ := ih
    have ticked : (machine D).step state .tick = some (.ticked state.tick.1, state.tick.2) := rfl
    refine ⟨_, _, .call reached ticked, ?_, List.forall_mem_cons.mpr ⟨?_, quiet⟩⟩
    · rw [← counted]
      exact List.countP_cons_of_pos (by simp)
    · intro given
      obtain ⟨_, _, _, _, asked, _⟩ := given
      cases asked

/-- After an accepted TesterPresent, and until the next, the server is held for
all but the last tick of the window, which disarms it. Later ticks do nothing. -/
theorem window_exact {server : UdsServer D} {params response : List UInt8} {handled : Handled D}
    (presented : server.handle (0x3E :: params) response = some handled) (accepted : handled.result = some 2)
    {past : List (ServerStep D)} {state : UdsServer D} (reached : (machine D).Reaches handled.server past state)
    (quiet : ∀ step ∈ past, ¬ Presents step) :
    (state.isHeld = true ↔ ticks past < testerPresentTimeout.toNat) ∧
      (state.tick.1 = true ↔ ticks past + 1 = testerPresentTimeout.toNat) ∧
      (ticks past + 1 = testerPresentTimeout.toNat →
        state.tick.2.session = .default ∧ state.tick.2.security = .locked ∧ state.tick.2.isHeld = false) := by
  have remains := reaches_remains (presented_window presented accepted) reached quiet
  refine ⟨remains.isHeld_iff, remains.tick_iff, ?_⟩
  intro due
  rw [remains.tick_due due]
  exact ⟨rfl, rfl, rfl⟩

/-- The calls from here on answer alike, and show the same session, security
level and window afterwards. -/
def Indistinguishable (first second : UdsServer D) : Prop :=
  ∀ events, ((machine D).run first events).map observed = ((machine D).run second events).map observed
where
  observed (result : List Outcome × UdsServer D) : List Outcome × UdsSession × UdsSecurityLevel × Bool :=
    (result.1, result.2.session, result.2.security, result.2.isHeld)

theorem reset_server {server : UdsServer D} {params response : List UInt8} {handled : Handled D}
    (reset : server.handle (0x11 :: 0x01 :: params) response = some handled) :
    handled.result = some 2 ∧
      handled.server = { UdsServer.new server.data with testerPresentPending := server.testerPresentPending } := by
  have responded : UdsServer.respond { server with session := .default, security := .locked } response [0x51, 0x01] =
    some handled := reset
  obtain ⟨_, _, rfl⟩ := respond_some responded
  exact ⟨rfl, rfl⟩

/-- A reset is a fresh start exactly when no window is open as it arrives. -/
theorem reset_fresh_iff {server : UdsServer D} {params response : List UInt8} {handled : Handled D}
    (reset : server.handle (0x11 :: 0x01 :: params) response = some handled) :
    Indistinguishable handled.server (UdsServer.new handled.server.data) ↔ server.isHeld = false := by
  rw [(reset_server reset).2]
  constructor
  · intro same
    have held := congrArg (fun result => result.2.2.2) (Option.some.inj (same []))
    exact held
  · intro idle events
    have closed : server.testerPresentPending = none := Option.not_isSome_iff_eq_none.mp (Bool.eq_false_iff.mp idle)
    rw [closed]
    rfl

end

/-- Four ticks after a TesterPresent the server is still held, and the next ends that. -/
theorem window_exact_four_ticks :
    ∃ (past : List (ServerStep MockData)) (state : UdsServer MockData),
      ticks past = 4 ∧ state.isHeld = true ∧ state.tick.1 = true := by
  obtain ⟨handled, presented, accepted⟩ : ∃ handled, (UdsServer.new (MockData.mk (.fill 32 0))).handle [0x3E, 0x00]
      (List.replicate 10 0) = some handled ∧ handled.result = some 2 := ⟨_, rfl, rfl⟩
  obtain ⟨past, state, reached, four, quiet⟩ := ticks_reached handled.server 4
  obtain ⟨held, ends, _⟩ := window_exact presented accepted reached quiet
  rw [four] at held ends
  exact ⟨past, state, four, held.mpr (by decide), ends.mpr rfl⟩

/-- With the window open, a reset server is held and a new one is not. -/
theorem reset_held :
    ¬ ∀ (D : Type) [UdsDataProvider D] (data : D) past server, (machine D).Reaches (UdsServer.new data) past server →
        ∀ params response handled, server.handle (0x11 :: 0x01 :: params) response = some handled →
          Indistinguishable handled.server (UdsServer.new handled.server.data) := by
  intro claimed
  have presented : (machine MockData).step (UdsServer.new ⟨.fill 32 0⟩) (.handle [0x3E, 0x00] (List.replicate 10 0)) =
    some (_, _) := rfl
  have same := claimed MockData ⟨.fill 32 0⟩ _ _ (.call .start presented) [] (List.replicate 10 0) _ rfl []
  have held := congrArg (fun result => result.2.2.2) (Option.some.inj same)
  cases held

/-- A server in its extended session, unlocked by seed and key, is reset. -/
theorem reset_fresh_unlocked :
    ∃ past server handled, (machine MockData).Reaches (UdsServer.new ⟨.fill 32 0⟩) past server ∧
      server.session = .extended ∧ server.security = .unlocked ∧ server.isHeld = false ∧
      server.handle [0x11, 0x01] (List.replicate 10 0) = some handled ∧
      Indistinguishable handled.server (UdsServer.new handled.server.data) := by
  have unlocks : (machine MockData).run (UdsServer.new ⟨.fill 32 0⟩) [.handle [0x10, 0x03] (List.replicate 10 0),
      .handle [0x27, 0x01] (List.replicate 10 0), .handle [0x27, 0x02, 0x55] (List.replicate 10 0)] =
    some (_, ⟨⟨.fill 32 0⟩, .extended, .unlocked, none⟩) := rfl
  obtain ⟨past, reached, _⟩ := Machine.Reaches.start.run unlocks
  have reset : (UdsServer.mk (MockData.mk (.fill 32 0)) .extended .unlocked none).handle (0x11 :: 0x01 :: [])
    (List.replicate 10 0) = some _ := rfl
  exact ⟨past ++ [], _, _, reached, rfl, rfl, rfl, reset, (reset_fresh_iff reset).mpr rfl⟩

end TptChassis.Proofs.UdsWindow
