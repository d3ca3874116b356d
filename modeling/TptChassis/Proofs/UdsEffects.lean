import Mathlib.Tactic.SplitIfs
import TptChassis.Uds

/-! Everything one request can do to a server, and which buffers are long enough
for every response. -/

namespace TptChassis.Proofs.UdsEffects
open Uds Slices
open Words (shortFromBeBytes)

variable {D : Type}

theorem fromU8_some {sid : UInt8} {service : UdsService} (known : UdsService.fromU8 sid = some service) :
    sid = service.toU8 := by
  unfold UdsService.fromU8 at known
  split_ifs at known <;> cases known <;> assumption

/-- The effects of a request that does not stop the server. -/
inductive Handles [UdsDataProvider D] (server : UdsServer D) (request response : List UInt8) : Handled D → Prop where
  | passed : Handles server request response (server.pass response)
  | refused {sid params} (nrc : UdsNrc) (asked : request = sid :: params) :
      Handles server request response (server.refuse response sid nrc)
  | held {params written} (asked : request = 0x3E :: params) (sub : (params.head?.getD 0) &&& 0x7F = 0x00)
      (stored : store response 0 [0x7E, 0x00] = some written) :
      Handles server request response
        ⟨some 2, { server with testerPresentPending := some testerPresentTimeout }, written, []⟩
  | entered {sub params next written} (asked : request = 0x10 :: sub :: params) (known : UdsSession.fromU8 sub = some next)
      (stored : store response 0 [0x50, sub, 0x00, 0x32] = some written) :
      Handles server request response ⟨some 4, { server with session := next }, written, []⟩
  | reset {params written} (asked : request = 0x11 :: 0x01 :: params)
      (stored : store response 0 [0x51, 0x01] = some written) :
      Handles server request response ⟨some 2, { server with session := .default, security := .locked }, written, []⟩
  | seeded {params written} (asked : request = 0x27 :: 0x01 :: params)
      (stored : store response 0 [0x67, 0x01, 0xAA] = some written) :
      Handles server request response ⟨some 3, server, written, []⟩
  | unlocked {params written} (asked : request = 0x27 :: 0x02 :: 0x55 :: params)
      (stored : store response 0 [0x67, 0x02] = some written) :
      Handles server request response ⟨some 2, { server with security := .unlocked }, written, []⟩
  | read {high low params len opened out written} (asked : request = 0x22 :: high :: low :: params)
      (length : UdsDataProvider.didReadLen server.data (shortFromBeBytes high low) = some len) (short : len ≤ udsMaxPayload)
      (allowed : server.security = .locked → didReserved (shortFromBeBytes high low) = false)
      (stored : store response 0 [0x62, high, low] = some opened) (room : slice opened 3 (3 + len) = some out)
      (filled : store opened 3 (UdsDataProvider.didRead server.data (shortFromBeBytes high low) out) = some written) :
      Handles server request response ⟨some (3 + len), server, written, [.didRead (shortFromBeBytes high low)]⟩
  | written {high low params data written} (asked : request = 0x2E :: high :: low :: params)
      (allowed : server.security = .unlocked)
      (accepted : UdsDataProvider.didWrite server.data (shortFromBeBytes high low) params = (true, data))
      (stored : store response 0 [0x6E, high, low] = some written) :
      Handles server request response
        ⟨some 3, { server with data }, written, [.didWrite (shortFromBeBytes high low) params]⟩
  | rejected {high low params data} (asked : request = 0x2E :: high :: low :: params)
      (allowed : server.security = .unlocked)
      (refused : UdsDataProvider.didWrite server.data (shortFromBeBytes high low) params = (false, data)) :
      Handles server request response
        { UdsServer.refuse { server with data } response 0x2E .requestOutOfRange with
          accesses := [.didWrite (shortFromBeBytes high low) params] }

/-- Requests that get no response, however long the buffer. -/
inductive Silent (server : UdsServer D) : List UInt8 → Prop where
  | empty : Silent server []
  | session : Silent server [0x10]
  | otherSession {sub params} (unknown : UdsSession.fromU8 sub = none) : Silent server (0x10 :: sub :: params)
  | reset : Silent server [0x11]
  | access : Silent server [0x27]
  | key : Silent server [0x27, 0x02]
  | read {params} (short : params.length < 2) : Silent server (0x22 :: params)
  | write {params} (short : params.length < 2) (allowed : server.security = .unlocked) : Silent server (0x2E :: params)

/-- Requests that get a positive response, and how long it is. -/
inductive Grants [UdsDataProvider D] (server : UdsServer D) : List UInt8 → Nat → Prop where
  | held {params} (sub : (params.head?.getD 0) &&& 0x7F = 0x00) : Grants server (0x3E :: params) 2
  | entered {sub params next} (known : UdsSession.fromU8 sub = some next) : Grants server (0x10 :: sub :: params) 4
  | reset {params} : Grants server (0x11 :: 0x01 :: params) 2
  | seeded {params} : Grants server (0x27 :: 0x01 :: params) 3
  | unlocked {params} : Grants server (0x27 :: 0x02 :: 0x55 :: params) 2
  | read {high low params len} (length : UdsDataProvider.didReadLen server.data (shortFromBeBytes high low) = some len)
      (short : len ≤ udsMaxPayload)
      (allowed : server.security = .locked → didReserved (shortFromBeBytes high low) = false) :
      Grants server (0x22 :: high :: low :: params) (3 + len)
  | written {high low params data} (allowed : server.security = .unlocked)
      (accepted : UdsDataProvider.didWrite server.data (shortFromBeBytes high low) params = (true, data)) :
      Grants server (0x2E :: high :: low :: params) 3

/-- The buffer holds every positive response that the request can get. -/
def Fits [UdsDataProvider D] (server : UdsServer D) (request response : List UInt8) : Prop :=
  ∀ length, Grants server request length → length ≤ response.length

/-- The request is handled, and left without a response only when the buffer
cannot hold a negative one or none is due. -/
def Answers (server : UdsServer D) (request response : List UInt8) (computed : Checked (Handled D)) : Prop :=
  ∃ handled, computed = some handled ∧ (handled.result = none → response.length < 3 ∨ Silent server request)

theorem not_locked {level : UdsSecurityLevel} (unlocked : level = .unlocked) : ¬ level = .locked := by
  rw [unlocked]
  exact UdsSecurityLevel.noConfusion

theorem permitted_iff {level : UdsSecurityLevel} {reserved : Bool} :
    ¬ (level = .locked ∧ reserved = true) ↔ (level = .locked → reserved = false) := by
  rw [not_and, Bool.not_eq_true]

theorem unlocked_of_not {level : UdsSecurityLevel} (open' : ¬ level = .locked) : level = .unlocked := by
  cases level with
  | locked => exact absurd rfl open'
  | unlocked => rfl

theorem refuse_small (server : UdsServer D) {response : List UInt8} (small : response.length < 3) (sid : UInt8)
    (nrc : UdsNrc) : server.refuse response sid nrc = server.pass response :=
  if_pos small

theorem refuse_writes (server : UdsServer D) {response : List UInt8} (room : 3 ≤ response.length) (sid : UInt8)
    (nrc : UdsNrc) :
    server.refuse response sid nrc = ⟨some 3, server, overwrite response 0 [0x7F, sid, nrc.toU8], []⟩ :=
  if_neg (Nat.not_lt_of_le room)

theorem refuse_server (server : UdsServer D) (response : List UInt8) (sid : UInt8) (nrc : UdsNrc) :
    (server.refuse response sid nrc).server = server := by
  unfold UdsServer.refuse
  split <;> rfl

theorem rejected_server (server : UdsServer D) (data : D) (response : List UInt8) (sid : UInt8) (nrc : UdsNrc)
    (accesses : List Access) :
    { UdsServer.refuse { server with data } response sid nrc with accesses }.server = { server with data } :=
  refuse_server _ response sid nrc

theorem refuse_accesses (server : UdsServer D) (response : List UInt8) (sid : UInt8) (nrc : UdsNrc) :
    (server.refuse response sid nrc).accesses = [] := by
  unfold UdsServer.refuse
  split <;> rfl

theorem respond_some {server : UdsServer D} {response bytes : List UInt8} {handled : Handled D}
    (responded : server.respond response bytes = some handled) :
    ∃ written, store response 0 bytes = some written ∧ handled = ⟨some bytes.length, server, written, []⟩ := by
  simp only [UdsServer.respond, Option.bind_eq_bind, Option.pure_def] at responded
  rw [Option.bind_eq_some_iff] at responded
  obtain ⟨written, stored, responded⟩ := responded
  exact ⟨written, stored, (Option.some.inj responded).symm⟩

theorem respond_performs (server : UdsServer D) {response bytes : List UInt8} (room : bytes.length ≤ response.length) :
    server.respond response bytes = some ⟨some bytes.length, server, overwrite response 0 bytes, []⟩ := by
  have fits : 0 + bytes.length ≤ response.length := (Nat.zero_add _).symm ▸ room
  simp only [UdsServer.respond, store_eq fits]
  rfl

private theorem pred_toNat {left : UInt8} (positive : left ≠ 0) : (left - 1).toNat = left.toNat - 1 := by
  have one : (1 : UInt8) ≤ left := UInt8.le_iff_toNat_le.mpr (Nat.one_le_iff_ne_zero.mpr fun zero =>
    positive (UInt8.toNat_inj.mp zero))
  exact UInt8.toNat_sub_of_le _ _ one

/-- What a tick does: it ends the window, shortens it, or finds none. -/
inductive Ticks (server : UdsServer D) : Bool → UdsServer D → Prop where
  | ends {left} (opened : server.testerPresentPending = some left) : Ticks server true server.disarm
  | shortens {left next} (opened : server.testerPresentPending = some left) (shorter : next.toNat + 1 = left.toNat)
      (open' : 0 < next.toNat) : Ticks server false { server with testerPresentPending := some next }
  | idle (closed : server.testerPresentPending = none) : Ticks server false server

theorem tick_idle {server : UdsServer D} (closed : server.testerPresentPending = none) : server.tick = (false, server) := by
  simp only [UdsServer.tick, closed]

theorem tick_ends {server : UdsServer D} {left : UInt8} (opened : server.testerPresentPending = some left)
    (last : left.toNat ≤ 1) : server.tick = (true, server.disarm) := by
  simp only [UdsServer.tick, opened]
  split
  · rfl
  next positive =>
    have less := pred_toNat positive
    have ended : left - 1 = 0 := UInt8.toNat_inj.mp (less.trans (Nat.sub_eq_zero_of_le last))
    rw [if_pos ended]

theorem tick_shortens {server : UdsServer D} {left : UInt8} (opened : server.testerPresentPending = some left)
    (more : 1 < left.toNat) :
    ∃ next : UInt8, next.toNat + 1 = left.toNat ∧
      server.tick = (false, { server with testerPresentPending := some next }) := by
  have positive : left ≠ 0 := by
    intro same
    subst same
    cases more
  have less := pred_toNat positive
  have open' : left - 1 ≠ 0 := by
    intro ended
    have zero : (left - 1).toNat = 0 := congrArg UInt8.toNat ended
    omega
  refine ⟨left - 1, by omega, ?_⟩
  simp only [UdsServer.tick, opened, if_neg positive, if_neg open']

theorem tick_iff (server : UdsServer D) :
    server.tick.1 = true ↔ ∃ left, server.testerPresentPending = some left ∧ left.toNat ≤ 1 := by
  constructor
  · intro ended
    cases opened : server.testerPresentPending with
    | none =>
      rw [tick_idle opened] at ended
      cases ended
    | some left =>
      refine ⟨left, rfl, Nat.le_of_not_lt ?_⟩
      intro more
      obtain ⟨next, _, ticked⟩ := tick_shortens opened more
      rw [ticked] at ended
      cases ended
  · intro given
    obtain ⟨left, opened, last⟩ := given
    rw [tick_ends opened last]

theorem tick_cases (server : UdsServer D) : Ticks server server.tick.1 server.tick.2 := by
  cases opened : server.testerPresentPending with
  | none =>
    rw [tick_idle opened]
    exact .idle opened
  | some left =>
    by_cases more : 1 < left.toNat
    · obtain ⟨next, shorter, ticked⟩ := tick_shortens opened more
      rw [ticked]
      exact .shortens opened shorter (by omega)
    · rw [tick_ends opened (Nat.le_of_not_lt more)]
      exact .ends opened

section
variable {server : UdsServer D} {request response : List UInt8} {handled : Handled D}

private theorem answers_pass (silent : Silent server request) :
    Answers server request response (some (server.pass response)) :=
  ⟨_, rfl, fun _ => .inr silent⟩

private theorem answers_refuse {other : UdsServer D} {sid : UInt8} {nrc : UdsNrc}
    (same : handled.result = (other.refuse response sid nrc).result) : Answers server request response (some handled) := by
  refine ⟨handled, rfl, ?_⟩
  intro unanswered
  by_cases small : response.length < 3
  · exact .inl small
  · rw [same, UdsServer.refuse, if_neg small] at unanswered
    cases unanswered

private theorem answers_respond (other : UdsServer D) {bytes : List UInt8} (room : bytes.length ≤ response.length) :
    Answers server request response (other.respond response bytes) :=
  ⟨_, respond_performs other room, fun unanswered => by cases unanswered⟩

end

variable [UdsDataProvider D] {server : UdsServer D} {params response : List UInt8} {handled : Handled D}

private theorem testerPresent_cases (done : server.testerPresent params response = some handled) :
    Handles server (0x3E :: params) response handled := by
  unfold UdsServer.testerPresent at done
  split at done
  · cases done
    exact .refused _ rfl
  next sub =>
    obtain ⟨written, stored, rfl⟩ := respond_some done
    exact .held rfl (Classical.not_not.mp sub) stored

private theorem diagnosticSessionControl_cases (done : server.diagnosticSessionControl params response = some handled) :
    Handles server (0x10 :: params) response handled := by
  unfold UdsServer.diagnosticSessionControl at done
  split at done
  · cases done
    exact .passed
  · split at done
    · cases done
      exact .passed
    next known =>
      obtain ⟨written, stored, rfl⟩ := respond_some done
      exact .entered rfl known stored

private theorem ecuReset_cases (done : server.ecuReset params response = some handled) :
    Handles server (0x11 :: params) response handled := by
  unfold UdsServer.ecuReset at done
  split at done
  · cases done
    exact .passed
  · split at done
    · cases done
      exact .refused _ rfl
    next sub =>
      obtain ⟨written, stored, rfl⟩ := respond_some done
      cases Classical.not_not.mp sub
      exact .reset rfl stored

private theorem securityAccess_cases (done : server.securityAccess params response = some handled) :
    Handles server (0x27 :: params) response handled := by
  unfold UdsServer.securityAccess at done
  split at done
  · cases done
    exact .passed
  · split at done
    next seed =>
      subst seed
      obtain ⟨written, stored, rfl⟩ := respond_some done
      exact .seeded rfl stored
    · split at done
      next send =>
        subst send
        split at done
        · cases done
          exact .passed
        · dsimp only at done
          split at done
          next key =>
            subst key
            obtain ⟨written, stored, rfl⟩ := respond_some done
            exact .unlocked rfl stored
          · cases done
            exact .refused _ rfl
      · cases done
        exact .refused _ rfl

private theorem readDataByIdentifier_cases (done : server.readDataByIdentifier params response = some handled) :
    Handles server (0x22 :: params) response handled := by
  unfold UdsServer.readDataByIdentifier at done
  split at done
  next high low _ =>
    dsimp only at done
    split at done
    · cases done
      exact .refused _ rfl
    next len length =>
      split at done
      · cases done
        exact .refused _ rfl
      next short =>
        split at done
        · cases done
          exact .refused _ rfl
        next denied =>
          simp only [Option.bind_eq_bind, Option.pure_def] at done
          rw [Option.bind_eq_some_iff] at done
          obtain ⟨opened, stored, done⟩ := done
          rw [Option.bind_eq_some_iff] at done
          obtain ⟨out, room, done⟩ := done
          rw [Option.bind_eq_some_iff] at done
          obtain ⟨written, filled, done⟩ := done
          cases done
          exact .read rfl length (Nat.le_of_not_lt short) (permitted_iff.mp denied) stored room filled
  · cases done
    exact .passed

private theorem writeDataByIdentifier_cases (done : server.writeDataByIdentifier params response = some handled) :
    Handles server (0x2E :: params) response handled := by
  unfold UdsServer.writeDataByIdentifier at done
  split at done
  · cases done
    exact .refused _ rfl
  next locked =>
    have allowed := unlocked_of_not locked
    split at done
    next high low rest =>
      cases wrote : UdsDataProvider.didWrite server.data (shortFromBeBytes high low) rest with
      | mk accepted data =>
        simp only [wrote] at done
        cases accepted with
        | true =>
          rw [if_pos rfl, Option.bind_eq_bind, Option.bind_eq_some_iff] at done
          obtain ⟨answered, responded, done⟩ := done
          obtain ⟨written, stored, rfl⟩ := respond_some responded
          cases done
          exact .written rfl allowed wrote stored
        | false =>
          cases done
          exact .rejected rfl allowed wrote
    · cases done
      exact .passed

/-- A request that does not stop the server has one of the listed effects. -/
theorem handle_cases {request : List UInt8} (done : server.handle request response = some handled) :
    Handles server request response handled := by
  unfold UdsServer.handle at done
  split at done
  · cases done
    exact .passed
  · split at done
    next =>
      cases done
      exact .refused _ rfl
    next known => exact fromU8_some known ▸ testerPresent_cases done
    next known => exact fromU8_some known ▸ diagnosticSessionControl_cases done
    next known => exact fromU8_some known ▸ ecuReset_cases done
    next known => exact fromU8_some known ▸ securityAccess_cases done
    next known => exact fromU8_some known ▸ readDataByIdentifier_cases done
    next known => exact fromU8_some known ▸ writeDataByIdentifier_cases done

theorem read_overwrites {data : D} {high low : UInt8} {len : Nat} {opened out written : List UInt8}
    (stored : store response 0 [0x62, high, low] = some opened) (found : slice opened 3 (3 + len) = some out)
    (filled : store opened 3 (UdsDataProvider.didRead data (shortFromBeBytes high low) out) = some written) :
    out.length = len ∧ 3 + len ≤ response.length ∧
      written = overwrite response 0 (0x62 :: high :: low :: UdsDataProvider.didRead data (shortFromBeBytes high low) out) := by
  have size : out.length = len := by
    rw [length_slice found, Nat.add_sub_cancel_left]
  obtain ⟨front, rfl⟩ := store_some stored
  obtain ⟨_, inside, _⟩ := slice_some found
  obtain ⟨_, rfl⟩ := store_some filled
  rw [length_overwrite front] at inside
  exact ⟨size, inside, overwrite_append response [0x62, high, low] _⟩

theorem handle_read {high low : UInt8} {len : Nat} (params : List UInt8)
    (length : UdsDataProvider.didReadLen server.data (shortFromBeBytes high low) = some len) (short : len ≤ udsMaxPayload)
    (allowed : server.security = .locked → didReserved (shortFromBeBytes high low) = false)
    (room : 3 + len ≤ response.length) :
    ∃ out, out.length = len ∧ server.handle (0x22 :: high :: low :: params) response =
      some ⟨some (3 + len), server,
        overwrite response 0 (0x62 :: high :: low :: UdsDataProvider.didRead server.data (shortFromBeBytes high low) out),
        [.didRead (shortFromBeBytes high low)]⟩ := by
  have permitted := permitted_iff.mpr allowed
  have front : 0 + [0x62, high, low].length ≤ response.length := by
    simp only [List.length_cons, List.length_nil]
    omega
  have inside : 3 + len ≤ (overwrite response 0 [0x62, high, low]).length := by
    rw [length_overwrite front]
    exact room
  have opened : store response 0 [UdsService.readDataByIdentifier.responseSid, high, low] =
    some (overwrite response 0 [0x62, high, low]) := store_eq front
  have found := slice_eq (Nat.le_add_right 3 len) inside
  have size := (length_slice found).trans (Nat.add_sub_cancel_left 3 len)
  have sized := (UdsDataProvider.didRead_length server.data (shortFromBeBytes high low) _).trans size
  have filled := store_eq (sized.symm ▸ inside)
  have written := read_overwrites (store_eq front) found filled
  refine ⟨_, size, ?_⟩
  change UdsServer.readDataByIdentifier server (high :: low :: params) response = _
  simp only [UdsServer.readDataByIdentifier, length, if_neg (Nat.not_lt_of_le short), if_neg permitted, opened, found,
    filled, Option.bind_eq_bind, Option.bind_some, Option.pure_def, written.2.2]

theorem Grants.bounded {request : List UInt8} {length : Nat} (grants : Grants server request length) : length ≤ 10 := by
  cases grants with
  | read _ short =>
    simp only [udsMaxPayload] at short
    omega
  | _ => decide

private theorem testerPresent_answers (fits : Fits server (0x3E :: params) response) :
    Answers server (0x3E :: params) response (server.testerPresent params response) := by
  unfold UdsServer.testerPresent
  split
  · exact answers_refuse rfl
  next sub => exact answers_respond _ (fits _ (.held (Classical.not_not.mp sub)))

private theorem diagnosticSessionControl_answers (fits : Fits server (0x10 :: params) response) :
    Answers server (0x10 :: params) response (server.diagnosticSessionControl params response) := by
  cases params with
  | nil => exact answers_pass .session
  | cons sub rest =>
    unfold UdsServer.diagnosticSessionControl
    cases known : UdsSession.fromU8 sub with
    | none =>
      simp only [known]
      exact answers_pass (.otherSession known)
    | some next =>
      simp only [known]
      exact answers_respond _ (fits _ (.entered known))

private theorem ecuReset_answers (fits : Fits server (0x11 :: params) response) :
    Answers server (0x11 :: params) response (server.ecuReset params response) := by
  cases params with
  | nil => exact answers_pass .reset
  | cons sub rest =>
    unfold UdsServer.ecuReset
    dsimp only
    split
    · exact answers_refuse rfl
    next hard =>
      cases Classical.not_not.mp hard
      exact answers_respond _ (fits _ .reset)

private theorem securityAccess_answers (fits : Fits server (0x27 :: params) response) :
    Answers server (0x27 :: params) response (server.securityAccess params response) := by
  cases params with
  | nil => exact answers_pass .access
  | cons sub rest =>
    unfold UdsServer.securityAccess
    dsimp only
    split
    next seed =>
      subst seed
      exact answers_respond _ (fits _ .seeded)
    · split
      next send =>
        subst send
        cases rest with
        | nil => exact answers_pass .key
        | cons key rest =>
          dsimp only
          split
          next correct =>
            subst correct
            exact answers_respond _ (fits _ .unlocked)
          · exact answers_refuse rfl
      · exact answers_refuse rfl

private theorem readDataByIdentifier_answers (fits : Fits server (0x22 :: params) response) :
    Answers server (0x22 :: params) response (server.readDataByIdentifier params response) := by
  rcases params with _ | ⟨high, _ | ⟨low, rest⟩⟩
  · exact answers_pass (.read (Nat.succ_pos 1))
  · exact answers_pass (.read (Nat.lt_succ_self 1))
  · cases length : UdsDataProvider.didReadLen server.data (shortFromBeBytes high low) with
    | none =>
      simp only [UdsServer.readDataByIdentifier, length]
      exact answers_refuse rfl
    | some len =>
      by_cases short : len ≤ udsMaxPayload
      · by_cases denied : server.security = .locked ∧ didReserved (shortFromBeBytes high low)
        · simp only [UdsServer.readDataByIdentifier, length, if_neg (Nat.not_lt_of_le short), if_pos denied]
          exact answers_refuse rfl
        · have allowed := permitted_iff.mp denied
          obtain ⟨_, _, performed⟩ := handle_read rest length short allowed (fits _ (.read length short allowed))
          exact ⟨_, performed, fun unanswered => by cases unanswered⟩
      · simp only [UdsServer.readDataByIdentifier, length, if_pos (Nat.lt_of_not_le short)]
        exact answers_refuse rfl

private theorem writeDataByIdentifier_answers (fits : Fits server (0x2E :: params) response) :
    Answers server (0x2E :: params) response (server.writeDataByIdentifier params response) := by
  unfold UdsServer.writeDataByIdentifier
  split
  · exact answers_refuse rfl
  next locked =>
    have allowed := unlocked_of_not locked
    rcases params with _ | ⟨high, _ | ⟨low, rest⟩⟩
    · exact answers_pass (.write (Nat.succ_pos 1) allowed)
    · exact answers_pass (.write (Nat.lt_succ_self 1) allowed)
    · cases wrote : UdsDataProvider.didWrite server.data (shortFromBeBytes high low) rest with
      | mk accepted data =>
        simp only [wrote]
        cases accepted with
        | true =>
          have room : [UdsService.writeDataByIdentifier.responseSid, high, low].length ≤ response.length :=
            fits _ (.written allowed wrote)
          rw [if_pos rfl, respond_performs _ room]
          exact ⟨_, rfl, fun unanswered => by cases unanswered⟩
        | false => exact answers_refuse rfl

/-- A buffer that holds every positive response is enough, and then a request
gets a response unless none is due or a negative one does not fit. -/
theorem handle_answers {request : List UInt8} (fits : Fits server request response) :
    Answers server request response (server.handle request response) := by
  unfold UdsServer.handle
  cases request with
  | nil => exact answers_pass .empty
  | cons sid params =>
    dsimp only
    split
    · exact answers_refuse rfl
    next known =>
      cases fromU8_some known
      exact testerPresent_answers fits
    next known =>
      cases fromU8_some known
      exact diagnosticSessionControl_answers fits
    next known =>
      cases fromU8_some known
      exact ecuReset_answers fits
    next known =>
      cases fromU8_some known
      exact securityAccess_answers fits
    next known =>
      cases fromU8_some known
      exact readDataByIdentifier_answers fits
    next known =>
      cases fromU8_some known
      exact writeDataByIdentifier_answers fits

theorem handle_progress (server : UdsServer D) (request : List UInt8) {response : List UInt8}
    (room : 10 ≤ response.length) : (server.handle request response).isSome := by
  have fits : Fits server request response := fun _ grants => Nat.le_trans grants.bounded room
  obtain ⟨handled, done, _⟩ := handle_answers fits
  rw [done]
  rfl

theorem event_cases {after : UdsServer D} {event : Event} {outcome : Outcome}
    (happened : (machine D).step server event = some (outcome, after)) :
    (∃ request response handled, event = .handle request response ∧ Handles server request response handled ∧
      outcome = .handled handled.result handled.response handled.accesses ∧ after = handled.server) ∨
    ∃ disarmed, event = .tick ∧ outcome = .ticked disarmed ∧ Ticks server disarmed after := by
  cases event with
  | handle request response =>
    obtain ⟨handled, done, same⟩ := Option.map_eq_some_iff.mp happened
    cases same
    exact .inl ⟨request, response, handled, rfl, handle_cases done, rfl, rfl⟩
  | tick =>
    cases happened
    exact .inr ⟨_, rfl, rfl, tick_cases server⟩

end TptChassis.Proofs.UdsEffects
