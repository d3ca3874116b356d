import TptChassis.Proofs.UdsSecurity

/-! What a locked server tells about the data behind it. Two servers that differ
only in reserved identifiers are one server over two sets of data, and as long
as neither is unlocked no response depends on which of them answers. -/

namespace TptChassis.Proofs.UdsNoninterference
open Uds UdsEffects UdsSecurity Slices
open Words (shortFromBeBytes)

variable {D E : Type}

/-- The same server over other data. -/
def exchange (data : E) (server : UdsServer D) : UdsServer E :=
  ⟨data, server.session, server.security, server.testerPresentPending⟩

def exchangeHandled (data : E) (handled : Handled D) : Handled E :=
  ⟨handled.result, exchange data handled.server, handled.response, handled.accesses⟩

theorem exchange_data (data : E) (server : UdsServer D) : (exchange data server).data = data := rfl
theorem exchange_security (data : E) (server : UdsServer D) : (exchange data server).security = server.security := rfl

/-- The request leaves the same behind, whichever data the server stands before. -/
abbrev Alike (data : E) (here : Checked (Handled D)) (there : Checked (Handled E)) : Prop :=
  there = here.map (exchangeHandled data)

theorem respond_alike (data : E) (server : UdsServer D) (response bytes : List UInt8) :
    Alike data (server.respond response bytes) ((exchange data server).respond response bytes) := by
  unfold Alike UdsServer.respond
  cases store response 0 bytes with
  | none => rfl
  | some written => rfl

theorem refuse_alike (data : E) (server : UdsServer D) (response : List UInt8) (sid : UInt8) (nrc : UdsNrc) :
    (exchange data server).refuse response sid nrc = exchangeHandled data (server.refuse response sid nrc) := by
  unfold UdsServer.refuse
  split
  · rfl
  · rfl

private theorem refused (data : E) (server : UdsServer D) (response : List UInt8) (sid : UInt8) (nrc : UdsNrc) :
    Alike data (some (server.refuse response sid nrc)) (some ((exchange data server).refuse response sid nrc)) :=
  congrArg some (refuse_alike data server response sid nrc)

section
variable (data : E) (server : UdsServer D) (params response : List UInt8)

private theorem testerPresent_alike :
    Alike data (server.testerPresent params response) ((exchange data server).testerPresent params response) := by
  unfold UdsServer.testerPresent
  split
  · exact refused data server response _ _
  · exact respond_alike data { server with testerPresentPending := some testerPresentTimeout } response _

private theorem diagnosticSessionControl_alike :
    Alike data (server.diagnosticSessionControl params response)
      ((exchange data server).diagnosticSessionControl params response) := by
  unfold UdsServer.diagnosticSessionControl
  cases params with
  | nil => rfl
  | cons sub rest =>
    dsimp only
    cases UdsSession.fromU8 sub with
    | none => rfl
    | some next => exact respond_alike data { server with session := next } response _

private theorem ecuReset_alike :
    Alike data (server.ecuReset params response) ((exchange data server).ecuReset params response) := by
  unfold UdsServer.ecuReset
  cases params with
  | nil => rfl
  | cons sub rest =>
    dsimp only
    split
    · exact refused data server response _ _
    · exact respond_alike data { server with session := .default, security := .locked } response _

private theorem securityAccess_alike :
    Alike data (server.securityAccess params response) ((exchange data server).securityAccess params response) := by
  unfold UdsServer.securityAccess
  cases params with
  | nil => rfl
  | cons sub rest =>
    dsimp only
    split
    · exact respond_alike data server response _
    · split
      · cases rest with
        | nil => rfl
        | cons key more =>
          dsimp only
          split
          · exact respond_alike data { server with security := .unlocked } response _
          · exact refused data server response _ _
      · exact refused data server response _ _

end

theorem tick_alike (data : E) (server : UdsServer D) :
    (exchange data server).tick = (server.tick.1, exchange data server.tick.2) := by
  obtain ⟨held, session, security, pending⟩ := server
  cases pending with
  | none => rfl
  | some left =>
    simp only [UdsServer.tick, exchange]
    split
    · rfl
    · split
      · rfl
      · rfl

theorem ticks_locked {server after : UdsServer D} {disarmed : Bool} (ticks : Ticks server disarmed after)
    (locked : server.security = .locked) : after.security = .locked ∧ after.data = server.data := by
  cases ticks with
  | ends => exact ⟨rfl, rfl⟩
  | shortens => exact ⟨locked, rfl⟩
  | idle => exact ⟨locked, rfl⟩

variable [UdsDataProvider D] [UdsDataProvider E]

/-- The data differ in reserved identifiers only. Reading is compared for buffers
of the length the identifier has. -/
structure Agree (first : D) (second : E) : Prop where
  lengths : ∀ did, UdsDataProvider.didReadLen second did = UdsDataProvider.didReadLen first did
  reads : ∀ did, ¬ (0xF100 ≤ did ∧ did ≤ 0xF1FF) → ∀ out : List UInt8,
    UdsDataProvider.didReadLen first did = some out.length →
    UdsDataProvider.didRead second did out = UdsDataProvider.didRead first did out

variable {server : UdsServer D} {other : E}

private theorem readDataByIdentifier_alike (agree : Agree server.data other) (locked : server.security = .locked)
    (params response : List UInt8) :
    Alike other (server.readDataByIdentifier params response)
      ((exchange other server).readDataByIdentifier params response) := by
  unfold UdsServer.readDataByIdentifier
  split
  next high low _ =>
    dsimp only
    rw [exchange_data, exchange_security, agree.lengths]
    cases length : UdsDataProvider.didReadLen server.data (shortFromBeBytes high low) with
    | none => exact refused other server response _ _
    | some len =>
      dsimp only
      split
      · exact refused other server response _ _
      · split
        · exact refused other server response _ _
        next allowed =>
          have open' : ¬ (0xF100 ≤ shortFromBeBytes high low ∧ shortFromBeBytes high low ≤ 0xF1FF) := by
            intro reserved
            exact allowed ⟨locked, decide_eq_true reserved⟩
          simp only [Option.bind_eq_bind]
          cases store response 0 [UdsService.readDataByIdentifier.responseSid, high, low] with
          | none => rfl
          | some opened =>
            simp only [Option.bind_some]
            cases room : slice opened 3 (3 + len) with
            | none => rfl
            | some out =>
              have sized : out.length = len := by
                rw [length_slice room, Nat.add_sub_cancel_left]
              simp only [Option.bind_some]
              rw [agree.reads _ open' out (sized ▸ length)]
              cases store opened 3 (UdsDataProvider.didRead server.data (shortFromBeBytes high low) out) with
              | none => rfl
              | some written => rfl
  · rfl

private theorem writeDataByIdentifier_alike (locked : server.security = .locked) (params response : List UInt8) :
    Alike other (server.writeDataByIdentifier params response)
      ((exchange other server).writeDataByIdentifier params response) := by
  unfold UdsServer.writeDataByIdentifier
  have locked' : (exchange other server).security = .locked := locked
  rw [if_pos locked, if_pos locked']
  exact refused other server response _ _

/-- A locked server answers every request without regard to what it may not tell. -/
theorem handle_alike (agree : Agree server.data other) (locked : server.security = .locked) (request response : List UInt8) :
    Alike other (server.handle request response) ((exchange other server).handle request response) := by
  unfold UdsServer.handle
  cases request with
  | nil => rfl
  | cons sid params =>
    dsimp only
    cases UdsService.fromU8 sid with
    | none => exact refused other server response _ _
    | some service =>
      cases service with
      | testerPresent => exact testerPresent_alike other server params response
      | diagnosticSessionControl => exact diagnosticSessionControl_alike other server params response
      | ecuReset => exact ecuReset_alike other server params response
      | securityAccess => exact securityAccess_alike other server params response
      | readDataByIdentifier => exact readDataByIdentifier_alike agree locked params response
      | writeDataByIdentifier => exact writeDataByIdentifier_alike locked params response

theorem handles_locked {request response : List UInt8} {handled : Handled D}
    (handles : Handles server request response handled) (locked : server.security = .locked)
    (keyless : ∀ params, request ≠ 0x27 :: 0x02 :: 0x55 :: params) :
    handled.server.security = .locked ∧ handled.server.data = server.data := by
  have refused (nrc : UdsNrc) (sid : UInt8) : (server.refuse response sid nrc).server.security = .locked ∧
      (server.refuse response sid nrc).server.data = server.data := by
    rw [refuse_server]
    exact ⟨locked, rfl⟩
  cases handles with
  | refused nrc => exact refused nrc _
  | reset => exact ⟨rfl, rfl⟩
  | unlocked asked => exact absurd asked (keyless _)
  | written _ allowed => cases locked.symm.trans allowed
  | rejected _ allowed => cases locked.symm.trans allowed
  | _ => exact ⟨locked, rfl⟩

/-- One server is the other one over other data, and both are locked. -/
structure Twins (first : D) (second : E) (here : UdsServer D) (there : UdsServer E) : Prop where
  locked : here.security = .locked
  data : here.data = first
  same : there = exchange second here

theorem Twins.event {first : D} {second : E} {here : UdsServer D} {there : UdsServer E} {event : Event}
    (twins : Twins first second here there) (agree : Agree first second)
    (room : ∀ request response, event = .handle request response → 10 ≤ response.length)
    (keyless : ∀ params response, event ≠ .handle (0x27 :: 0x02 :: 0x55 :: params) response) :
    ∃ outcome next following, (machine D).step here event = some (outcome, next) ∧
      (machine E).step there event = some (outcome, following) ∧ Twins first second next following := by
  obtain ⟨locked, rfl, rfl⟩ := twins
  cases event with
  | handle request response =>
    obtain ⟨handled, done⟩ := Option.isSome_iff_exists.mp (handle_progress here request (room _ _ rfl))
    have alike := handle_alike agree locked request response
    rw [done] at alike
    have kept := handles_locked (handle_cases done) locked (fun params same => keyless params response (same ▸ rfl))
    refine ⟨.handled handled.result handled.response handled.accesses, handled.server,
      exchange second handled.server, ?_, ?_, kept.1, kept.2, rfl⟩
    · simp only [machine, done]
      rfl
    · simp only [machine, alike]
      rfl
  | tick =>
    have kept := ticks_locked (tick_cases here) locked
    refine ⟨.ticked here.tick.1, here.tick.2, exchange second here.tick.2, rfl, ?_, kept.1, kept.2, rfl⟩
    simp only [machine, tick_alike]

/-- Without the key, two servers over data that differ in reserved identifiers
only give the same results and the same response bytes to every request. -/
theorem locked_noninterference {first : D} {second : E} (agree : Agree first second) (events : List Event)
    (room : ∀ request response, .handle request response ∈ events → 10 ≤ response.length)
    (keyless : ∀ params response, .handle (0x27 :: 0x02 :: 0x55 :: params) response ∉ events) :
    ∃ outcomes last final, (machine D).run (UdsServer.new first) events = some (outcomes, last) ∧
      (machine E).run (UdsServer.new second) events = some (outcomes, final) := by
  have begins : Twins first second (UdsServer.new first) (UdsServer.new second) := ⟨rfl, rfl, rfl⟩
  have simulates : ∀ event ∈ events, ∀ here there, Twins first second here there →
      ∃ outcome next following, (machine D).step here event = some (outcome, next) ∧
        (machine E).step there event = some (outcome, following) ∧ Twins first second next following := by
    intro event member here there twins
    apply twins.event agree
    · intro request response same
      exact room request response (same ▸ member)
    · intro params response same
      exact keyless params response (same ▸ member)
  obtain ⟨outcomes, last, final, ran, ran', _⟩ := Machine.run_simulation events simulates _ _ begins
  exact ⟨outcomes, last, final, ran, ran'⟩

/-- The tests' data with the given third byte, which only the identifier 0xF190 shows. -/
def secretData (secret : UInt8) : MockData := ⟨(Buffer.fill 32 0).set 2 secret⟩

private theorem secretData_agree (first second : UInt8) : Agree (secretData first) (secretData second) := by
  constructor
  · intro did
    rfl
  · intro did open' out length
    simp only [UdsDataProvider.didReadLen] at length
    split at length
    · have two : out.length = 2 := (Option.some.inj length).symm
      simp only [UdsDataProvider.didRead, two]
      rfl
    · split at length
      next vin => exact absurd (vin ▸ by decide) open'
      next => cases length

theorem locked_noninterference_vin :
    UdsDataProvider.didRead (secretData 1) 0xF190 [0, 0, 0, 0] ≠ UdsDataProvider.didRead (secretData 2) 0xF190 [0, 0, 0, 0] ∧
    ∃ outcomes last final,
      (machine MockData).run (UdsServer.new (secretData 1))
        [.handle [0x27, 0x01] (List.replicate 10 0), .handle [0x22, 0x00, 0x01] (List.replicate 10 0),
          .handle [0x22, 0xF1, 0x90] (List.replicate 10 0), .handle [0x27, 0x02, 0x54] (List.replicate 10 0), .tick] =
        some (outcomes, last) ∧
      (machine MockData).run (UdsServer.new (secretData 2))
        [.handle [0x27, 0x01] (List.replicate 10 0), .handle [0x22, 0x00, 0x01] (List.replicate 10 0),
          .handle [0x22, 0xF1, 0x90] (List.replicate 10 0), .handle [0x27, 0x02, 0x54] (List.replicate 10 0), .tick] =
        some (outcomes, final) := by
  refine ⟨by decide, locked_noninterference (secretData_agree 1 2) _ ?_ ?_⟩
  · intro request response member
    simp only [List.mem_cons, Event.handle.injEq, reduceCtorEq, List.not_mem_nil, or_false] at member
    rcases member with ⟨_, rfl⟩ | ⟨_, rfl⟩ | ⟨_, rfl⟩ | ⟨_, rfl⟩
    all_goals decide
  · intro params response member
    simp only [List.mem_cons, Event.handle.injEq, reduceCtorEq, List.not_mem_nil, or_false] at member
    rcases member with ⟨sent, _⟩ | ⟨sent, _⟩ | ⟨sent, _⟩ | ⟨sent, _⟩
    all_goals cases sent

end TptChassis.Proofs.UdsNoninterference
