import TptChassis.Proofs.UdsEffects

/-! What a request gets back. Positive responses are written without a look at
the buffer's length, negative ones only into a buffer that can hold them, and
some malformed requests get neither. -/

namespace TptChassis.Proofs.UdsAnswers
open Uds UdsEffects Slices
open Words (shortFromBeBytes)

variable {D : Type}

/-- A response of this length is stored, or the program stops. -/
def Stores (response : List UInt8) (length : Nat) (computed : Checked (Handled D)) : Prop :=
  (length ≤ response.length → ∃ handled, computed = some handled ∧ handled.result = some length) ∧
    (response.length < length → computed = none)

private theorem stores_respond (other : UdsServer D) (response bytes : List UInt8) :
    Stores response bytes.length (other.respond response bytes) := by
  refine ⟨fun room => ⟨_, respond_performs other room, rfl⟩, ?_⟩
  intro small
  have long : ¬ 0 + bytes.length ≤ response.length := by omega
  simp only [UdsServer.respond, store, if_neg long]
  rfl

private theorem stores_accesses {response : List UInt8} {length : Nat} {computed : Checked (Handled D)}
    (stores : Stores response length computed)
    (accesses : List Access) :
    Stores response length (do
      let handled ← computed
      return { handled with accesses }) := by
  refine ⟨?_, fun small => by rw [stores.2 small]; rfl⟩
  intro room
  obtain ⟨handled, done, answered⟩ := stores.1 room
  exact ⟨{ handled with accesses }, by rw [done]; rfl, answered⟩

variable [UdsDataProvider D]

/-- What a request without a positive response leaves: the server as it was, but
for data that a rejected write has changed. -/
inductive Kept (server : UdsServer D) (request : List UInt8) (handled : Handled D) : Prop where
  | unchanged (same : handled.server = server)
  | rejected {high low params data} (asked : request = 0x2E :: high :: low :: params)
      (allowed : server.security = .unlocked)
      (refused : UdsDataProvider.didWrite server.data (shortFromBeBytes high low) params = (false, data))
      (changed : handled.server = { server with data })
      (accessed : handled.accesses = [.didWrite (shortFromBeBytes high low) params])

/-- How a handled request ends. The bytes of a response stand at the front of
the buffer, with the rest of it behind them. -/
inductive Replies (server : UdsServer D) (request response : List UInt8) (handled : Handled D) : Prop where
  | silent (unanswered : handled.result = none) (kept : Kept server request handled)
  | negative {sid params} (nrc : UdsNrc) (asked : request = sid :: params) (answered : handled.result = some 3)
      (room : 3 ≤ response.length) (written : handled.response = overwrite response 0 [0x7F, sid, nrc.toU8])
      (kept : Kept server request handled)
  | positive {sid params rest} (asked : request = sid :: params) (known : (UdsService.fromU8 sid).isSome)
      (answered : handled.result = some (rest.length + 1)) (granted : Grants server request (rest.length + 1))
      (room : rest.length + 1 ≤ response.length)
      (written : handled.response = overwrite response 0 ((sid + 0x40) :: rest))

section
variable {server : UdsServer D} {request response : List UInt8} {handled : Handled D}

private theorem overwritten {bytes written : List UInt8} (stored : store response 0 bytes = some written) :
    bytes.length ≤ response.length ∧ written = overwrite response 0 bytes := by
  simpa using store_some stored

theorem handles_replies (handles : Handles server request response handled) :
    Replies server request response handled := by
  cases handles with
  | passed => exact .silent rfl (.unchanged rfl)
  | @refused sid params nrc asked =>
    by_cases small : response.length < 3
    · rw [refuse_small _ small]
      exact .silent rfl (.unchanged rfl)
    · have room := Nat.le_of_not_lt small
      rw [refuse_writes _ room]
      exact .negative nrc asked rfl room rfl (.unchanged rfl)
  | held asked sub stored =>
    obtain ⟨room, rfl⟩ := overwritten stored
    exact .positive asked rfl rfl (asked ▸ .held sub) room rfl
  | entered asked known stored =>
    obtain ⟨room, rfl⟩ := overwritten stored
    exact .positive asked rfl rfl (asked ▸ .entered known) room rfl
  | reset asked stored =>
    obtain ⟨room, rfl⟩ := overwritten stored
    exact .positive asked rfl rfl (asked ▸ .reset) room rfl
  | seeded asked stored =>
    obtain ⟨room, rfl⟩ := overwritten stored
    exact .positive asked rfl rfl (asked ▸ .seeded) room rfl
  | unlocked asked stored =>
    obtain ⟨room, rfl⟩ := overwritten stored
    exact .positive asked rfl rfl (asked ▸ .unlocked) room rfl
  | written asked allowed accepted stored =>
    obtain ⟨room, rfl⟩ := overwritten stored
    exact .positive asked rfl rfl (asked ▸ .written allowed accepted) room rfl
  | @read high low params len opened out written asked length short allowed stored found filled =>
    obtain ⟨size, room, rfl⟩ := read_overwrites stored found filled
    generalize read : UdsDataProvider.didRead server.data (shortFromBeBytes high low) out = data
    have counted : (high :: low :: data).length + 1 = 3 + len := by
      rw [List.length_cons, List.length_cons, ← read, UdsDataProvider.didRead_length, size]
      omega
    have granted : Grants server request ((high :: low :: data).length + 1) := by
      rw [counted, asked]
      exact .read length short allowed
    exact .positive asked rfl (congrArg some counted.symm) granted (counted ▸ room) rfl
  | @rejected high low params data asked allowed refused =>
    by_cases small : response.length < 3
    · rw [refuse_small _ small]
      exact .silent rfl (.rejected asked allowed refused rfl rfl)
    · have room := Nat.le_of_not_lt small
      rw [refuse_writes _ room]
      exact .negative _ asked rfl room rfl (.rejected asked allowed refused rfl rfl)

private theorem stores_read {high low : UInt8} (params : List UInt8) {len : Nat}
    (length : UdsDataProvider.didReadLen server.data (shortFromBeBytes high low) = some len) (short : len ≤ udsMaxPayload)
    (allowed : server.security = .locked → didReserved (shortFromBeBytes high low) = false) :
    Stores response (3 + len) (server.handle (0x22 :: high :: low :: params) response) := by
  constructor
  · intro room
    obtain ⟨_, _, performed⟩ := handle_read params length short allowed room
    exact ⟨_, performed, rfl⟩
  · intro small
    change UdsServer.readDataByIdentifier server (high :: low :: params) response = none
    simp only [UdsServer.readDataByIdentifier, length, if_neg (Nat.not_lt_of_le short),
      if_neg (permitted_iff.mpr allowed), Option.bind_eq_bind]
    -- A buffer that takes the header is too short for the data.
    rw [Option.bind_eq_none_iff]
    intro opened stored
    obtain ⟨front, rfl⟩ := store_some stored
    have outside : slice (overwrite response 0 [UdsService.readDataByIdentifier.responseSid, high, low]) 3 (3 + len) = none := by
      apply if_neg
      rw [length_overwrite front]
      omega
    rw [outside]
    rfl

/-- A granted request has its response written, or stops the program when the
buffer is too short. -/
theorem grants_stores {length : Nat} (grants : Grants server request length) (response : List UInt8) :
    Stores response length (server.handle request response) := by
  cases grants with
  | @held params sub =>
    have asked : server.handle (0x3E :: params) response =
        UdsServer.respond { server with testerPresentPending := some testerPresentTimeout } response [0x7E, 0x00] := by
      change UdsServer.testerPresent server params response = _
      simp only [UdsServer.testerPresent, if_neg (Classical.not_not.mpr sub)]
      rfl
    rw [asked]
    exact stores_respond _ response [0x7E, 0x00]
  | @entered sub params next known =>
    have asked : server.handle (0x10 :: sub :: params) response =
        UdsServer.respond { server with session := next } response [0x50, sub, 0x00, 0x32] := by
      change UdsServer.diagnosticSessionControl server (sub :: params) response = _
      simp only [UdsServer.diagnosticSessionControl, known]
      rfl
    rw [asked]
    exact stores_respond _ response [0x50, sub, 0x00, 0x32]
  | reset => exact stores_respond { server with session := .default, security := .locked } response [0x51, 0x01]
  | seeded => exact stores_respond server response [0x67, 0x01, 0xAA]
  | unlocked => exact stores_respond { server with security := .unlocked } response [0x67, 0x02]
  | @read high low params len length short allowed => exact stores_read params length short allowed
  | @written high low params data allowed accepted =>
    change Stores response 3 (UdsServer.writeDataByIdentifier server (high :: low :: params) response)
    simp only [UdsServer.writeDataByIdentifier, if_neg (not_locked allowed), accepted, if_pos]
    exact stores_accesses (stores_respond _ response [0x6E, high, low]) _

theorem silent_passes (silent : Silent server request) (response : List UInt8) :
    server.handle request response = some (server.pass response) := by
  cases silent with
  | empty => rfl
  | session => rfl
  | @otherSession sub params unknown =>
    change UdsServer.diagnosticSessionControl server (sub :: params) response = _
    simp only [UdsServer.diagnosticSessionControl, unknown]
  | reset => rfl
  | access => rfl
  | key => rfl
  | @read params short =>
    rcases params with _ | ⟨high, _ | ⟨low, rest⟩⟩
    · rfl
    · rfl
    · simp only [List.length_cons] at short
      omega
  | @write params short allowed =>
    rcases params with _ | ⟨high, _ | ⟨low, rest⟩⟩
    · exact if_neg (not_locked allowed)
    · exact if_neg (not_locked allowed)
    · simp only [List.length_cons] at short
      omega

end

/-- A rejected write that changes the data all the same. -/
def Spoils (server : UdsServer D) (request : List UInt8) : Prop :=
  ∃ high low params data, request = 0x2E :: high :: low :: params ∧ server.security = .unlocked ∧
    UdsDataProvider.didWrite server.data (shortFromBeBytes high low) params = (false, data) ∧ data ≠ server.data

/-- The request does not stop the program, and where the buffer is shorter than
the response that it would get with room enough, it gets none and leaves the
server unchanged. -/
def Contract (server : UdsServer D) (request response : List UInt8) : Prop :=
  ∃ handled, server.handle request response = some handled ∧
    ∀ wide full n, 10 ≤ wide.length → server.handle request wide = some full → full.result = some n →
      response.length < n → handled.result = none ∧ handled.server = server

section
variable {server : UdsServer D} {request response : List UInt8}

private theorem contract_fits (contract : Contract server request response) : Fits server request response := by
  obtain ⟨handled, done, _⟩ := contract
  intro length grants
  by_contra small
  cases ((grants_stores grants response).2 (Nat.lt_of_not_le small)).symm.trans done

private theorem contract_room (contract : Contract server request response) (spoils : Spoils server request) :
    3 ≤ response.length := by
  obtain ⟨handled, done, refuses⟩ := contract
  obtain ⟨high, low, params, data, rfl, allowed, refused, changed⟩ := spoils
  have rejected (buffer : List UInt8) : server.handle (0x2E :: high :: low :: params) buffer =
      some { UdsServer.refuse { server with data } buffer 0x2E .requestOutOfRange with
        accesses := [.didWrite (shortFromBeBytes high low) params] } := by
    change UdsServer.writeDataByIdentifier server (high :: low :: params) buffer = _
    simp only [UdsServer.writeDataByIdentifier, if_neg (not_locked allowed), refused]
    rfl
  by_contra small
  have wide : 10 ≤ (List.replicate 10 (0 : UInt8)).length := Nat.le_of_eq List.length_replicate.symm
  have kept := (refuses _ _ 3 wide (rejected _) rfl (Nat.lt_of_not_le small)).2
  rw [rejected response, refuse_small _ (Nat.lt_of_not_le small)] at done
  cases done
  exact changed (congrArg UdsServer.data kept)

end

/-- A buffer that is too short is refused without effect exactly when the
response is a negative one, and no rejected write has changed the data. -/
theorem contract_iff (server : UdsServer D) (request response : List UInt8) :
    Contract server request response ↔
      Fits server request response ∧ (Spoils server request → 3 ≤ response.length) := by
  constructor
  · exact fun contract => ⟨contract_fits contract, contract_room contract⟩
  · intro given
    obtain ⟨fits, spared⟩ := given
    obtain ⟨handled, done, _⟩ := handle_answers fits
    refine ⟨handled, done, ?_⟩
    intro wide full n long completed answered short
    cases handles_replies (handle_cases completed) with
    | silent unanswered =>
      rw [unanswered] at answered
      cases answered
    | positive _ _ same granted =>
      rw [same] at answered
      cases answered
      exact absurd (fits _ granted) (Nat.not_le_of_lt short)
    | negative _ _ same =>
      rw [same] at answered
      cases answered
      cases handles_replies (handle_cases done) with
      | silent unanswered kept =>
        refine ⟨unanswered, ?_⟩
        cases kept with
        | unchanged same => exact same
        | @rejected high low params data asked allowed refused changed =>
          by_cases spoiled : data = server.data
          · rw [changed, spoiled]
          · exact absurd (spared ⟨high, low, params, data, asked, allowed, refused, spoiled⟩) (Nat.not_le_of_lt short)
      | negative _ _ _ room => exact absurd room (Nat.not_le_of_lt short)
      | positive _ _ _ granted room =>
        obtain ⟨_, again, three⟩ := (grants_stores granted wide).1 (Nat.le_trans granted.bounded long)
        cases completed.symm.trans again
        rw [same] at three
        have size := Option.some.inj three
        omega

/-- A TesterPresent request with a buffer of one byte stops the program. -/
theorem contract_one_byte :
    ¬ ∀ (D : Type) [UdsDataProvider D] (server : UdsServer D) (request response : List UInt8),
        Contract server request response := by
  intro claimed
  obtain ⟨handled, done, _⟩ := claimed MockData (UdsServer.new ⟨.fill 32 0⟩) [0x3E, 0x00] [0]
  cases done

end TptChassis.Proofs.UdsAnswers
