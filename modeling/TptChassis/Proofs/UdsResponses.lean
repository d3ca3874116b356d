import TptChassis.Proofs.UdsAnswers

/-! The bytes of a response, and what stays as it was when there is none or a
negative one. Only a long read gives more bytes than a Single Frame holds. -/

namespace TptChassis.Proofs.UdsResponses
open Uds UdsEffects UdsAnswers Slices
open Words (shortFromBeBytes)

variable {D : Type} [UdsDataProvider D]

/-- The first byte is the request's SID with `0x40` added. -/
def Positive (request answer : List UInt8) : Prop :=
  ∃ sid params rest, request = sid :: params ∧ answer = (sid + 0x40) :: rest

def Negative (request answer : List UInt8) : Prop :=
  ∃ sid params nrc, request = sid :: params ∧ answer = [0x7F, sid, UdsNrc.toU8 nrc]

/-- A response of `n` bytes at the front of the buffer, the rest of which is as before. -/
structure Shaped (request response : List UInt8) (handled : Handled D) (n : Nat) : Prop where
  inside : n ≤ response.length
  sized : handled.response.length = response.length
  behind : handled.response.drop n = response.drop n
  kind : Positive request (handled.response.take n) ∨ Negative request (handled.response.take n)

/-- No response, or a negative one. -/
def Unperformed (request : List UInt8) (handled : Handled D) : Prop :=
  handled.result = none ∨ ∃ n, handled.result = some n ∧ Negative request (handled.response.take n)

/-- Nothing is changed but the data, and that by a write that was rejected. -/
structure Untouched (server : UdsServer D) (handled : Handled D) : Prop where
  session : handled.server.session = server.session
  security : handled.server.security = server.security
  window : handled.server.testerPresentPending = server.testerPresentPending
  data : handled.server.data = server.data ∨ ∃ did bytes, .didWrite did bytes ∈ handled.accesses ∧
    UdsDataProvider.didWrite server.data did bytes = (false, handled.server.data)

section
variable {server : UdsServer D} {request response : List UInt8} {handled : Handled D}

theorem kept_untouched (kept : Kept server request handled) : Untouched server handled := by
  cases kept with
  | unchanged same => exact ⟨by rw [same], by rw [same], by rw [same], .inl (by rw [same])⟩
  | @rejected high low params data asked allowed refused changed accessed =>
    refine ⟨by rw [changed], by rw [changed], by rw [changed], .inr ⟨shortFromBeBytes high low, params, ?_, ?_⟩⟩
    · rw [accessed]
      exact List.mem_singleton_self _
    · rw [changed]
      exact refused

omit [UdsDataProvider D] in
private theorem overwritten_shaped (bytes : List UInt8) (room : bytes.length ≤ response.length)
    (written : handled.response = overwrite response 0 bytes) (kind : Positive request bytes ∨ Negative request bytes) :
    Shaped request response handled bytes.length := by
  have front : handled.response.take bytes.length = bytes := by
    rw [written, take_overwrite_zero]
  refine ⟨room, ?_, ?_, by rw [front]; exact kind⟩
  · rw [written, length_overwrite (by rw [Nat.zero_add]; exact room)]
  · rw [written, drop_overwrite_zero]

theorem replies_shaped (replies : Replies server request response handled) {n : Nat} (answered : handled.result = some n) :
    Shaped request response handled n := by
  cases replies with
  | silent unanswered => cases unanswered.symm.trans answered
  | negative nrc asked same room written =>
    cases same.symm.trans answered
    exact overwritten_shaped [0x7F, _, nrc.toU8] room written (.inr ⟨_, _, nrc, asked, rfl⟩)
  | positive asked _ same _ room written =>
    cases same.symm.trans answered
    exact overwritten_shaped (_ :: _) room written (.inl ⟨_, _, _, asked, rfl⟩)

private theorem positive_byte {sid : UInt8} (known : (UdsService.fromU8 sid).isSome) : sid + 0x40 ≠ 0x7F := by
  obtain ⟨service, same⟩ := Option.isSome_iff_exists.mp known
  rw [fromU8_some same]
  cases service <;> decide

theorem replies_untouched (replies : Replies server request response handled) (without : Unperformed request handled) :
    Untouched server handled := by
  cases replies with
  | silent _ kept => exact kept_untouched kept
  | negative _ _ _ _ _ kept => exact kept_untouched kept
  | @positive sid params rest _ known same _ _ written =>
    rcases without with unanswered | ⟨n, answered, _, _, _, _, negative⟩
    · cases same.symm.trans unanswered
    · cases same.symm.trans answered
      have front := @take_overwrite_zero UInt8 response ((sid + 0x40) :: rest)
      rw [← written] at front
      have first := congrArg List.head? (front.symm.trans negative)
      exact absurd (Option.some.inj first) (positive_byte known)

end

/-- With ten bytes of buffer a request gets a response exactly when it is not one of
those for which none is due. Every response is a positive or a negative one. -/
theorem answered_iff (server : UdsServer D) (request : List UInt8) {response : List UInt8} (room : 10 ≤ response.length) :
    ((∃ handled n, server.handle request response = some handled ∧ handled.result = some n) ↔ ¬ Silent server request) ∧
      ∀ handled n, server.handle request response = some handled → handled.result = some n →
        Shaped request response handled n := by
  refine ⟨?_, fun handled n done answered => replies_shaped (handles_replies (handle_cases done)) answered⟩
  constructor
  · intro given silent
    obtain ⟨handled, n, done, answered⟩ := given
    cases (silent_passes silent response).symm.trans done
    cases answered
  · intro due
    have fits : Fits server request response := fun _ grants => Nat.le_trans grants.bounded room
    obtain ⟨handled, done, unanswered⟩ := handle_answers fits
    cases result : handled.result with
    | some n => exact ⟨handled, n, done, result⟩
    | none =>
      rcases unanswered result with small | silent
      · omega
      · exact absurd silent due

theorem answered_extended_session :
    ∃ handled n, (UdsServer.new (MockData.mk (.fill 32 0))).handle [0x10, 0x03] (List.replicate 10 0) = some handled ∧
      handled.result = some n ∧ Shaped [0x10, 0x03] (List.replicate 10 0) handled n := by
  obtain ⟨answers, shaped⟩ := answered_iff (UdsServer.new (MockData.mk (.fill 32 0))) [0x10, 0x03]
    (show 10 ≤ (List.replicate 10 (0 : UInt8)).length by decide)
  have due : ¬ Silent (UdsServer.new (MockData.mk (.fill 32 0))) [0x10, 0x03] := by
    intro silent
    cases silent with
    | otherSession unknown => cases unknown
  obtain ⟨handled, n, done, answered⟩ := answers.mpr due
  exact ⟨handled, n, done, answered, shaped handled n done answered⟩

/-- The programming session, which the server does not have, is passed over in silence. -/
theorem unanswered_other_session :
    ¬ ∀ (D : Type) [UdsDataProvider D] (server : UdsServer D) (request response : List UInt8), request ≠ [] →
        10 ≤ response.length →
        ∃ handled n, server.handle request response = some handled ∧ handled.result = some n := by
  intro claimed
  obtain ⟨handled, n, done, answered⟩ := claimed MockData (UdsServer.new ⟨.fill 32 0⟩) [0x10, 0x02]
    (List.replicate 10 0) (List.cons_ne_nil _ _) (by decide)
  cases done
  cases answered

/-- With ten bytes of buffer every response is of one of the two shapes, and a
request without a positive one leaves everything as it was, but for the data
behind a rejected write. -/
theorem handle_shaped (server : UdsServer D) (request response : List UInt8) (room : 10 ≤ response.length) :
    ∃ handled, server.handle request response = some handled ∧
      (∀ n, handled.result = some n → Shaped request response handled n) ∧
      (Unperformed request handled → Untouched server handled) := by
  obtain ⟨handled, done⟩ := Option.isSome_iff_exists.mp (handle_progress server request room)
  have replies := handles_replies (handle_cases done)
  exact ⟨handled, done, fun _ => replies_shaped replies, replies_untouched replies⟩

theorem handle_shaped_locked_write :
    ∃ handled, (UdsServer.new (MockData.mk (.fill 32 0))).handle [0x2E, 0x00, 0x01, 0xAB] (List.replicate 10 0) =
        some handled ∧
      Shaped [0x2E, 0x00, 0x01, 0xAB] (List.replicate 10 0) handled 3 ∧
      Untouched (UdsServer.new (MockData.mk (.fill 32 0))) handled := by
  obtain ⟨handled, done, shaped, untouched⟩ :=
    handle_shaped (UdsServer.new (MockData.mk (.fill 32 0))) [0x2E, 0x00, 0x01, 0xAB] (List.replicate 10 0) (by decide)
  have refused : handled.result = some 3 ∧ handled.response = [0x7F, 0x2E, 0x33, 0, 0, 0, 0, 0, 0, 0] := by
    cases done
    exact ⟨rfl, rfl⟩
  exact ⟨handled, done, shaped 3 refused.1,
    untouched (.inr ⟨3, refused.1, 0x2E, [0x00, 0x01, 0xAB], .securityAccessDenied, rfl, by rw [refused.2]; rfl⟩)⟩

/-- A permitted read of five to seven bytes, which the three bytes in front of
the data make too long for a Single Frame. -/
def LongRead (server : UdsServer D) (request : List UInt8) : Prop :=
  ∃ high low params len, request = 0x22 :: high :: low :: params ∧
    UdsDataProvider.didReadLen server.data (shortFromBeBytes high low) = some len ∧ 5 ≤ len ∧ len ≤ udsMaxPayload ∧
    (server.security = .locked → didReserved (shortFromBeBytes high low) = false)

private theorem granted_long_iff {server : UdsServer D} {request : List UInt8} :
    (∃ length, Grants server request length ∧ udsMaxPayload < length) ↔ LongRead server request := by
  constructor
  · intro given
    obtain ⟨length, grants, long⟩ := given
    rw [udsMaxPayload] at long
    cases grants with
    | read length short allowed => exact ⟨_, _, _, _, rfl, length, by omega, short, allowed⟩
    | _ => omega
  · intro given
    obtain ⟨high, low, params, len, rfl, length, long, short, allowed⟩ := given
    refine ⟨3 + len, .read length short allowed, ?_⟩
    rw [udsMaxPayload]
    omega

/-- Responses fit a Single Frame but for long reads. -/
theorem single_frame_iff (server : UdsServer D) (request : List UInt8) {response : List UInt8}
    (room : 10 ≤ response.length) :
    (∀ handled n, server.handle request response = some handled → handled.result = some n → n ≤ udsMaxPayload) ↔
      ¬ LongRead server request := by
  rw [← granted_long_iff]
  constructor
  · intro fits given
    obtain ⟨length, grants, long⟩ := given
    obtain ⟨handled, done, answered⟩ := (grants_stores grants response).1 (Nat.le_trans grants.bounded room)
    exact absurd (fits handled length done answered) (Nat.not_le_of_lt long)
  · intro short handled n done answered
    cases handles_replies (handle_cases done) with
    | silent unanswered => cases unanswered.symm.trans answered
    | negative _ _ same =>
      cases same.symm.trans answered
      decide
    | positive _ _ same granted =>
      cases same.symm.trans answered
      exact Nat.le_of_not_lt fun long => short ⟨_, granted, long⟩

theorem single_frame_short_read :
    ∃ handled, (UdsServer.new (MockData.mk (.fill 32 0))).handle [0x22, 0x00, 0x01] (List.replicate 10 0) = some handled ∧
      ∃ n, handled.result = some n ∧ n ≤ udsMaxPayload := by
  have permitted : ¬ LongRead (UdsServer.new (MockData.mk (.fill 32 0))) [0x22, 0x00, 0x01] := by
    intro given
    obtain ⟨high, low, params, len, same, length, long, _, _⟩ := given
    cases same
    cases length
    omega
  have room : 10 ≤ (List.replicate 10 (0 : UInt8)).length := Nat.le_of_eq List.length_replicate.symm
  exact ⟨_, rfl, _, rfl, (single_frame_iff _ _ room).mpr permitted _ _ rfl rfl⟩

/-- The provider that is a map: it takes every write, and reads what it holds. -/
def Records : Type := UInt16 → List UInt8

instance : UdsDataProvider Records where
  didReadLen records did := some (records did).length
  didRead records did out := if (records did).length = out.length then records did else out
  didWrite records did bytes := (true, fun other => if other = did then bytes else records other)
  didRead_length records did out := by
    split
    next same => exact same
    next => rfl

/-- Five bytes of data make a response of eight. -/
theorem single_frame_exceeded :
    ¬ ∀ (D : Type) [UdsDataProvider D] (server : UdsServer D) (request response : List UInt8), 10 ≤ response.length →
        ∀ handled n, server.handle request response = some handled → handled.result = some n → n ≤ udsMaxPayload := by
  intro claimed
  let records : Records := fun _ => [1, 2, 3, 4, 5]
  have short := claimed Records (UdsServer.new records) [0x22, 0x00, 0x01] (List.replicate 10 0) (by decide) _ 8 rfl rfl
  simp [udsMaxPayload] at short

end TptChassis.Proofs.UdsResponses
