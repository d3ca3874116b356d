import TptChassis.Cli
import TptChassis.Proofs.OtaRunning

/-! The package files of the tool, as the engine takes them. Each side encodes the
header on its own, and what one signs is what the other verifies. -/

namespace TptChassis.Proofs.PackagingTool
open Cli Ota OtaEffects OtaRunning Slices

variable {capacity len : Nat}

/-- A header is read back unless it names a slot that does not exist. -/
theorem decodeHeader_header (package : UpdatePackage) (rest : List UInt8) :
    UpdatePackage.decodeHeader (header package ++ rest) = some (if package.slot > 1 then none else some package) := by
  have long : headerLen ≤ (header package ++ rest).length := by
    rw [List.length_append]
    exact Nat.le_add_right 10 _
  have length : Words.fromBeBytes (package.payloadLen >>> 24).toUInt8 (package.payloadLen >>> 16).toUInt8
      (package.payloadLen >>> 8).toUInt8 package.payloadLen.toUInt8 = package.payloadLen := Words.fromBeBytes_toBeBytes _
  have magic : slice (header package ++ rest) 0 4 = some otaMagic := slice_front (Nat.le_trans (by decide) long)
  rw [UpdatePackage.decodeHeader, if_neg (Nat.not_lt.mpr long), magic]
  change (if package.slot > 1 then some none else
    some (some (UpdatePackage.mk package.slot (Words.fromBeBytes _ _ _ _)))) = _
  split
  next => rfl
  next => exact congrArg (fun length => some (some (UpdatePackage.mk package.slot length))) length

/-- The parts of a package file, split where its header says. -/
def splitFile (len : Nat) (file : List UInt8) : Option (UpdatePackage × List UInt8 × Buffer UInt8 len) :=
  match UpdatePackage.decodeHeader file with
  | some (some package) =>
    let body := file.drop headerLen
    let signature := body.drop package.payloadLen.toNat
    if sized : signature.length = len then some (package, body.take package.payloadLen.toNat, ⟨signature, sized⟩) else none
  | _ => none

theorem cmdOtaStage_writes (len : Nat) (payload : List UInt8) (key : UInt32) (slot : UInt8) :
    cmdOtaStage len payload key slot =
      some (header ⟨slot, UInt32.ofNat payload.length⟩ ++ payload ++
        ((DemoSigner.mk key).hash len (header ⟨slot, UInt32.ofNat payload.length⟩ ++ payload)).elements) := by
  obtain ⟨written, encoded, held⟩ :=
    encodeHeader_writes ⟨slot, UInt32.ofNat payload.length⟩ (.fill headerLen 0) (Nat.le_refl headerLen)
  have whole : written.elements = header ⟨slot, UInt32.ofNat payload.length⟩ := by
    rw [← held, List.take_of_length_le (Nat.le_of_eq written.sized)]
  rw [cmdOtaStage, encoded, ← whole]
  rfl

theorem splitFile_made {payload : List UInt8} (small : payload.length < UInt32.size) (slot : UInt8)
    (signature : Buffer UInt8 len) :
    splitFile len (header ⟨slot, UInt32.ofNat payload.length⟩ ++ payload ++ signature.elements) =
      if slot > 1 then none else some (⟨slot, UInt32.ofNat payload.length⟩, payload, signature) := by
  have length : (UInt32.ofNat payload.length).toNat = payload.length := UInt32.toNat_ofNat_of_lt' small
  rw [splitFile, List.append_assoc, decodeHeader_header]
  by_cases beyond : slot > 1
  · rw [if_pos beyond, if_pos beyond]
  · rw [if_neg beyond, if_neg beyond]
    have body : (header ⟨slot, UInt32.ofNat payload.length⟩ ++ (payload ++ signature.elements)).drop headerLen =
        payload ++ signature.elements := List.drop_left' rfl
    simp only [body, length, List.drop_left, List.take_left, dif_pos signature.sized]

/-- The file is split and its parts are staged, without a fault. -/
def Stages (signer : SignatureScheme len) (storage : MemStorage capacity) (file : List UInt8) (after : MemStorage capacity) :
    Prop :=
  ∃ package payload signature, splitFile len file = some (package, payload, signature) ∧
    (calmEngine signer capacity).step storage (.stage package payload signature) = some (.ok .done, after)

theorem stage_succeeds {signer : SignatureScheme len} {before after : MemStorage capacity} {package : UpdatePackage}
    {payload : List UInt8} {signature : Buffer UInt8 len}
    (called : (calmEngine signer capacity).step before (.stage package payload signature) = some (.ok .done, after)) :
    Accepts signer capacity package payload signature ∧ payload <+: after.image package.slot ∧
      after.state = .pending package.slot := by
  generalize given : EngineInput.mk (EngineCall.stage package payload signature) [] = input
  have called := given ▸ calm_called.mp called
  cases engine_cases called with
  | idle unfinished => exact absurd rfl (unfinished .done)
  | read same =>
    cases given
    cases same
  | moved moves =>
    cases given
    cases moves
  | torn _ _ _ unfinished => exact absurd rfl (unfinished .done)
  | staged same accepted stored =>
    cases given
    cases same
    refine ⟨accepted, ?_, rfl⟩
    have bytes := (writeSlot_effect stored).bytes
    rw [List.take_length] at bytes
    exact bytes ▸ front_overwrite _ _

/-- A package file of the tool is accepted under its key exactly when it names one
of the two slots and its payload fits. Then the slot begins with the payload, and
it waits to be promoted. -/
theorem tool_agrees {payload : List UInt8} (small : payload.length < UInt32.size) (slot : UInt8) (key : UInt32)
    (storage : MemStorage capacity) :
    ∃ file, cmdOtaStage len payload key slot = some file ∧
      ((∃ after, Stages ((DemoSigner.mk key).scheme len) storage file after) ↔
        slot ≤ 1 ∧ payload.length ≤ min capacity otaMaxPayload) ∧
      ∀ after, Stages ((DemoSigner.mk key).scheme len) storage file after →
        payload <+: after.image slot ∧ after.state = .pending slot := by
  have length : payload.length = (UInt32.ofNat payload.length).toNat := (UInt32.toNat_ofNat_of_lt' small).symm
  have parts := splitFile_made small slot
    ((DemoSigner.mk key).hash len (header ⟨slot, UInt32.ofNat payload.length⟩ ++ payload))
  refine ⟨_, cmdOtaStage_writes len payload key slot, ⟨?_, ?_⟩, ?_⟩
  · intro given
    obtain ⟨after, package, body, signature, found, called⟩ := given
    rw [parts] at found
    split at found
    next => cases found
    next named =>
      cases found
      have room := (stage_succeeds called).1.room
      exact ⟨UInt8.not_lt.mp named, Nat.le_min.mpr room⟩
  · intro given
    obtain ⟨named, room⟩ := given
    have fits := Nat.le_min.mp room
    have exists_slot : slot.toNat < 2 := Nat.lt_succ_of_le (UInt8.le_iff_toNat_le.mp named)
    obtain ⟨written, stored⟩ := writeSlot_accepts storage exists_slot fits.1 payload.length
    rw [if_neg (UInt8.not_lt.mpr named)] at parts
    exact ⟨_, _, _, _, parts, calm_stages ⟨key⟩ ⟨slot, UInt32.ofNat payload.length⟩ length fits stored⟩
  · intro after given
    obtain ⟨package, body, signature, found, called⟩ := given
    rw [parts] at found
    split at found
    next => cases found
    next =>
      cases found
      exact (stage_succeeds called).2

theorem tool_agrees_slot1 :
    ∃ file, cmdOtaStage 32 [1, 2, 3] 0xCAFE 1 = some file ∧
      ∃ after, Stages ((DemoSigner.mk 0xCAFE).scheme 32) (MemStorage.new 16) file after := by
  obtain ⟨file, written, accepted, _⟩ := @tool_agrees 16 32 [1, 2, 3] (by decide) 1 0xCAFE (.new 16)
  exact ⟨file, written, accepted.mpr (by decide)⟩

end TptChassis.Proofs.PackagingTool
