import TptChassis.Proofs.UdsResponses
import TptChassis.Proofs.UdsSecurity

/-! Reading back what was written. A server with a map behind it reaches that
map through accepted writes only, so what was last written to an identifier is
what a read returns. -/

namespace TptChassis.Proofs.UdsReadBack
open Uds UdsEffects UdsSecurity UdsResponses Slices
open Words (shortFromBeBytes)

variable {D : Type} [UdsDataProvider D]

/-- A provider that is a map from identifiers to byte strings. -/
structure MapProvider (D : Type) [UdsDataProvider D] where
  stored : D → UInt16 → List UInt8
  accepts : ∀ {data did bytes after}, UdsDataProvider.didWrite data did bytes = (true, after) →
    stored after did = bytes ∧ ∀ other, other ≠ did → stored after other = stored data other
  rejects : ∀ {data did bytes after}, UdsDataProvider.didWrite data did bytes = (false, after) →
    stored after = stored data
  reads : ∀ {data did out}, out.length = (stored data did).length → UdsDataProvider.didRead data did out = stored data did

def Accepted (request : List UInt8) (handled : Handled D) : Prop :=
  request.head? = some 0x2E ∧ handled.result = some 3 ∧ handled.response.head? = some 0x6E

def Writes (did : UInt16) (step : ServerStep D) : Prop :=
  ∃ high low bytes response written accesses, step.input = .handle (0x2E :: high :: low :: bytes) response ∧
    shortFromBeBytes high low = did ∧ step.output = .handled (some 3) written accesses ∧ written.head? = some 0x6E

section
variable {server : UdsServer D} {request response : List UInt8} {handled : Handled D}

omit [UdsDataProvider D] in
private theorem other_unaccepted {sid : UInt8} {params : List UInt8} (asked : request = sid :: params) (other : sid ≠ 0x2E) :
    ¬ Accepted request handled := by
  intro given
  obtain ⟨write, _⟩ := given
  rw [asked] at write
  exact other (Option.some.inj write)

omit [UdsDataProvider D] in
private theorem refuse_unaccepted (other : UdsServer D) (sid : UInt8) (nrc : UdsNrc) (accesses : List Access) :
    ¬ Accepted request { other.refuse response sid nrc with accesses } := by
  intro given
  obtain ⟨_, three, first⟩ := given
  by_cases small : response.length < 3
  · rw [refuse_small other small] at three
    cases three
  · rw [refuse_writes other (Nat.le_of_not_lt small)] at first
    cases first

/-- Only an accepted write changes the map, and only at its identifier. -/
theorem handles_stored (map : MapProvider D) (handles : Handles server request response handled) :
    (¬ Accepted request handled ∧ map.stored handled.server.data = map.stored server.data) ∨
      ∃ high low bytes, request = 0x2E :: high :: low :: bytes ∧ Accepted request handled ∧
        map.stored handled.server.data (shortFromBeBytes high low) = bytes ∧
        ∀ other, other ≠ shortFromBeBytes high low → map.stored handled.server.data other = map.stored server.data other := by
  cases handles with
  | passed =>
    left
    refine ⟨?_, rfl⟩
    intro given
    obtain ⟨_, three, _⟩ := given
    cases three
  | refused => exact .inl ⟨refuse_unaccepted server _ _ _, by rw [refuse_server]⟩
  | held asked => exact .inl ⟨other_unaccepted asked (by decide), rfl⟩
  | entered asked => exact .inl ⟨other_unaccepted asked (by decide), rfl⟩
  | reset asked => exact .inl ⟨other_unaccepted asked (by decide), rfl⟩
  | seeded asked => exact .inl ⟨other_unaccepted asked (by decide), rfl⟩
  | unlocked asked => exact .inl ⟨other_unaccepted asked (by decide), rfl⟩
  | read asked => exact .inl ⟨other_unaccepted asked (by decide), rfl⟩
  | written asked allowed accepted stored =>
    obtain ⟨_, rfl⟩ := store_some stored
    exact .inr ⟨_, _, _, asked, ⟨by rw [asked]; rfl, rfl, rfl⟩, map.accepts accepted⟩
  | @rejected _ _ _ data asked allowed refused =>
    left
    refine ⟨refuse_unaccepted { server with data } _ _ _, ?_⟩
    rw [rejected_server]
    exact map.rejects refused

theorem accepted_stored (map : MapProvider D) {high low : UInt8} {bytes : List UInt8}
    (handles : Handles server (0x2E :: high :: low :: bytes) response handled)
    (accepted : Accepted (0x2E :: high :: low :: bytes) handled) :
    map.stored handled.server.data (shortFromBeBytes high low) = bytes := by
  rcases handles_stored map handles with ⟨refused, _⟩ | ⟨_, _, _, asked, _, stored, _⟩
  · exact absurd accepted refused
  · cases asked
    exact stored

/-- What is stored stays until the next accepted write to its identifier. -/
theorem reaches_stored (map : MapProvider D) {start state : UdsServer D} {past : List (ServerStep D)} {did : UInt16}
    (reached : (machine D).Reaches start past state) (others : ∀ step ∈ past, ¬ Writes did step) :
    map.stored state.data did = map.stored start.data did := by
  induction reached with
  | start => rfl
  | call _ happened ih =>
    have before := ih fun step member => others step (List.mem_cons_of_mem _ member)
    rcases event_cases happened with ⟨request, response, handled, rfl, handles, rfl, rfl⟩ | ⟨disarmed, rfl, rfl, ticks⟩
    · rcases handles_stored map handles with ⟨_, same⟩ | ⟨high, low, bytes, rfl, ⟨_, three, first⟩, _, elsewhere⟩
      · rw [same, before]
      · have different : did ≠ shortFromBeBytes high low := by
          intro same
          subst same
          exact others _ List.mem_cons_self
            ⟨high, low, bytes, response, handled.response, handled.accesses, rfl, rfl, by rw [three], first⟩
        rw [elsewhere did different, before]
    · cases ticks with
      | ends => exact before
      | shortens => exact before
      | idle => exact before

theorem read_stored (map : MapProvider D) {high low : UInt8} (params : List UInt8)
    (length : UdsDataProvider.didReadLen server.data (shortFromBeBytes high low) =
      some (map.stored server.data (shortFromBeBytes high low)).length)
    (short : (map.stored server.data (shortFromBeBytes high low)).length ≤ udsMaxPayload)
    (allowed : server.security = .locked → didReserved (shortFromBeBytes high low) = false) (room : 10 ≤ response.length) :
    ∃ handled, server.handle (0x22 :: high :: low :: params) response = some handled ∧
      handled.result = some (3 + (map.stored server.data (shortFromBeBytes high low)).length) ∧
      handled.response.take (3 + (map.stored server.data (shortFromBeBytes high low)).length) =
        0x62 :: high :: low :: map.stored server.data (shortFromBeBytes high low) := by
  have fits : 3 + (map.stored server.data (shortFromBeBytes high low)).length ≤ response.length := by
    rw [udsMaxPayload] at short
    omega
  obtain ⟨out, size, performed⟩ := handle_read params length short allowed fits
  refine ⟨_, performed, rfl, ?_⟩
  rw [map.reads size, Nat.add_comm]
  exact take_overwrite_zero response (0x62 :: high :: low :: map.stored server.data (shortFromBeBytes high low))

end

/-- After an accepted write, whatever else is requested but another write to the
identifier, a permitted read of it returns the bytes written. -/
theorem written_read_back (map : MapProvider D) {start : UdsServer D} {high low : UInt8} {bytes response : List UInt8}
    {handled : Handled D} (wrote : start.handle (0x2E :: high :: low :: bytes) response = some handled)
    (accepted : Accepted (0x2E :: high :: low :: bytes) handled) {past : List (ServerStep D)} {state : UdsServer D}
    (reached : (machine D).Reaches handled.server past state)
    (others : ∀ step ∈ past, ¬ Writes (shortFromBeBytes high low) step)
    (length : UdsDataProvider.didReadLen state.data (shortFromBeBytes high low) = some bytes.length)
    (short : bytes.length ≤ udsMaxPayload)
    (allowed : didReserved (shortFromBeBytes high low) = false ∨ state.security = .unlocked)
    (params : List UInt8) {buffer : List UInt8} (room : 10 ≤ buffer.length) :
    ∃ read, state.handle (0x22 :: high :: low :: params) buffer = some read ∧
      read.result = some (3 + bytes.length) ∧ read.response.take (3 + bytes.length) = 0x62 :: high :: low :: bytes := by
  have stored := (reaches_stored map reached others).trans (accepted_stored map (handle_cases wrote) accepted)
  have permitted : state.security = .locked → didReserved (shortFromBeBytes high low) = false := by
    intro locked
    rcases allowed with free | unlocked
    · exact free
    · cases locked.symm.trans unlocked
  have read := read_stored map params (by rw [stored]; exact length) (by rw [stored]; exact short) permitted room
  rwa [stored] at read

/-- The provider that is nothing but a map. -/
def recordsMap : MapProvider Records where
  stored records := records
  accepts wrote := by
    cases wrote
    exact ⟨if_pos rfl, fun other different => if_neg different⟩
  rejects wrote := by cases wrote
  reads same := if_pos same.symm

theorem written_read_back_after_tick :
    ∃ (state : UdsServer Records) (read : Handled Records),
      state.handle [0x22, 0x00, 0x01] (List.replicate 10 0) = some read ∧ read.result = some 5 ∧
        read.response.take 5 = [0x62, 0x00, 0x01, 0xAB, 0xCD] := by
  let start : UdsServer Records := { UdsServer.new (fun _ => [] : Records) with security := .unlocked }
  obtain ⟨handled, wrote, accepted, stored⟩ : ∃ handled : Handled Records,
      start.handle [0x2E, 0x00, 0x01, 0xAB, 0xCD] (List.replicate 10 0) = some handled ∧
      Accepted [0x2E, 0x00, 0x01, 0xAB, 0xCD] handled ∧ handled.server.data (shortFromBeBytes 0x00 0x01) = [0xAB, 0xCD] :=
    ⟨_, rfl, ⟨rfl, rfl, rfl⟩, rfl⟩
  have ticked : (machine Records).step handled.server .tick =
    some (.ticked handled.server.tick.1, handled.server.tick.2) := rfl
  have others : ∀ step ∈ [Step.mk handled.server .tick (.ticked handled.server.tick.1) handled.server.tick.2],
      ¬ Writes (shortFromBeBytes 0x00 0x01) step := by
    intro step member given
    cases List.mem_singleton.mp member
    obtain ⟨_, _, _, _, _, _, asked, _⟩ := given
    cases asked
  have kept := reaches_stored recordsMap (.call .start ticked) others
  have length : UdsDataProvider.didReadLen handled.server.tick.2.data (shortFromBeBytes 0x00 0x01) = some 2 :=
    congrArg (fun bytes => some bytes.length) (kept.trans stored)
  exact ⟨_, written_read_back recordsMap wrote accepted (.call .start ticked) others length (by decide)
    (.inl (by decide)) [] (by decide)⟩

end TptChassis.Proofs.UdsReadBack
