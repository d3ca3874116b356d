import TptChassis.OtaZephyr
import TptChassis.Proofs.AglFiles

/-! The AGL storage and the RAM storage of Zephyr behave alike under an engine,
as long as no file operation meets a fault. One keeps the journal encoded and
rewrites whole images; the other keeps values. -/

namespace TptChassis.Proofs.PortsAgree
open Ota OtaEffects OtaPrograms AglFiles Slices Words

variable {len : Nat} (signer : SignatureScheme len) (agl zephyr : Target)

/-- What a slot holds; a missing file counts as zeros. -/
def image (directory : Directory) (slot : UInt8) : List UInt8 :=
  (directory (.slot slot)).getD (List.replicate ramSlotCap 0)

/-- The two storages have the same journal and the same slots. -/
structure Agrees (directory : Directory) (storage : ZephyrOtaStorage) : Prop where
  reads : ReadsBack directory storage.state
  slots : ∀ slot : Fin 2, image directory (UInt8.ofNat slot) = (storage.slots.get slot).elements

theorem agrees_new : Agrees .empty .new := by
  refine ⟨empty_readsBack, ?_⟩
  intro slot
  match slot with
  | 0 => rfl
  | 1 => rfl

theorem agrees_image {directory : Directory} {storage : ZephyrOtaStorage} (agrees : Agrees directory storage) {slot : UInt8}
    (named : slot.toNat < 2) : image directory slot = (storage.slots.get ⟨slot.toNat, named⟩).elements := by
  have same := agrees.slots ⟨slot.toNat, named⟩
  rwa [UInt8.ofNat_toNat] at same

theorem writeSlot_agrees {directory : Directory} {storage : ZephyrOtaStorage} (agrees : Agrees directory storage)
    {slot : UInt8} (named : slot.toNat < 2) {data : List UInt8} (fits : data.length ≤ ramSlotCap)
    (short : data.length ≤ otaMaxPayload) :
    ∃ after final, (AglOtaStorage.backend agl ramSlotCap).perform (.writeSlot slot 0 data) directory = some (.ok (), after) ∧
      (ZephyrOtaStorage.backend zephyr).perform (.writeSlot slot 0 data) storage = some (.ok (), final) ∧
      Agrees after final := by
  have same := agrees_image agrees named
  have sized := (storage.slots.get ⟨slot.toNat, named⟩).sized
  obtain ⟨copied, copies, elements⟩ := (storage.slots.get ⟨slot.toNat, named⟩).copy_eq
    (show 0 + data.length ≤ ramSlotCap from (Nat.zero_add _).symm ▸ fits)
  have done : patched ramSlotCap data (directory (.slot slot)) = some copied.elements := by
    rw [← same, image] at sized
    rw [elements, ← same, image]
    cases held : directory (.slot slot) with
    | none => rfl
    | some contents =>
      rw [held, Option.getD_some] at sized
      rw [patched, if_pos (Nat.le_of_eq sized.symm), List.take_of_length_le (Nat.le_of_eq sized), Option.getD_some]
  have written := ZephyrOtaStorage.writeSlot_copies (storage.slots.get?_eq ⟨slot.toNat, named⟩) (payload_sum zephyr short)
    fits copies
  refine ⟨_, _, writeSlot_performs agl fits short done, written, ?_, ?_⟩
  · apply readsBack_iff.mpr
    exact (congrArg journal (put_other directory _ (slot_ne_state slot).symm)).trans (readsBack_iff.mp agrees.reads)
  · intro other
    by_cases target : other = ⟨slot.toNat, named⟩
    · have kept : (storage.slots.set slot.toNat copied).get ⟨slot.toNat, named⟩ = copied :=
        Buffer.get_set_self storage.slots ⟨slot.toNat, named⟩ copied
      rw [target, kept, UInt8.ofNat_toNat, image, put_self, Option.getD_some]
    · have kept : (storage.slots.set slot.toNat copied).get other = storage.slots.get other := Buffer.get_set_other _ _ target
      have different : AglPath.slot (UInt8.ofNat other) ≠ .slot slot := by
        intro same
        cases same
        apply target
        apply Fin.ext
        exact (UInt8.toNat_ofNat_of_lt' (Nat.lt_trans other.isLt (by decide))).symm
      rw [kept, ← agrees.slots other, image, put_other _ _ different]
      rfl

/-- A disciplined program has the same result over both storages, and they agree afterwards. -/
theorem disciplined_agrees {program : Program StorageCall StorageCall.Reply (Except Failure EngineReply)}
    (disciplined : Disciplined ramSlotCap program) {directory : Directory} {storage : ZephyrOtaStorage}
    (agrees : Agrees directory storage) :
    ∃ result after final, (AglOtaStorage.backend agl ramSlotCap).run program directory = some (result, after) ∧
      (ZephyrOtaStorage.backend zephyr).run program storage = some (result, final) ∧ result ≠ .error .panic ∧
      Agrees after final := by
  induction disciplined generalizing directory storage with
  | pure sound => exact ⟨_, directory, storage, rfl, rfl, sound, agrees⟩
  | slotCapacity _ ih => exact ih agrees
  | readState _ _ _ ih =>
    have held := readsBack_iff.mp agrees.reads
    have read := readState_performs agl ramSlotCap directory
    rw [held] at read
    rw [Backend.run_reply read]
    exact ih storage.state (journal_recordable held) agrees
  | writeSlot named fits _ ih =>
    obtain ⟨after, final, written, stored, agrees⟩ := writeSlot_agrees agl zephyr agrees named fits.1 fits.2
    rw [Backend.run_reply written, Backend.run_reply stored]
    exact ih (.ok ()) agrees
  | @writeState state next recordable ends =>
    obtain ⟨kind, value, encoded, decoded⟩ := encode_decode recordable
    obtain ⟨result, finishes, sound⟩ := ends (.ok ())
    have written := writeState_performs agl ramSlotCap encoded directory
    have stored : (ZephyrOtaStorage.backend zephyr).perform (.writeState state) storage =
        some (.ok (), { storage with state }) := rfl
    rw [Backend.run_reply written, Backend.run_reply stored, finishes]
    refine ⟨result, _, _, rfl, rfl, sound, ?_, ?_⟩
    · exact readsBack_iff.mpr (put_journal decoded directory)
    · intro slot
      rw [image, put_other _ _ (slot_ne_state _)]
      exact agrees.slots slot

/-- Engines over the two storages, started on an empty directory and on a new
storage, return the same for every call, and leave the same journal and slots. -/
theorem ports_agree (calls : List (EngineCall len))
    (named : ∀ call ∈ calls, ∀ package payload signature, call = .stage package payload signature → package.slot.toNat < 2) :
    ∃ outputs after final,
      (servedEngine signer (AglOtaStorage.backend agl ramSlotCap)).run .empty calls = some (outputs, after) ∧
      (servedEngine signer (ZephyrOtaStorage.backend zephyr)).run .new calls = some (outputs, final) ∧
      Agrees after final := by
  apply Machine.run_simulation calls _ _ _ agrees_new
  intro call member directory storage agrees
  have disciplined : Disciplined ramSlotCap (call.program signer) :=
    program_disciplined fun package payload signature staged _ => named call member package payload signature staged
  obtain ⟨result, after, final, ran, stored, sound, kept⟩ := disciplined_agrees agl zephyr disciplined agrees
  obtain ⟨output, returns⟩ := returned_sound sound
  exact ⟨output, after, final, served_step ran returns, served_step stored returns, kept⟩

theorem ports_agree_update :
    ∃ outputs after final,
      (servedEngine ((DemoSigner.mk 0xCAFE).scheme 32) (AglOtaStorage.backend linux64 ramSlotCap)).run .empty
        [.recover, stageSigned ⟨0xCAFE⟩ 32 ⟨1, 3⟩ [1, 2, 3], .promote, .commit] = some (outputs, after) ∧
      (servedEngine ((DemoSigner.mk 0xCAFE).scheme 32) (ZephyrOtaStorage.backend ⟨UInt32.size, by decide⟩)).run .new
        [.recover, stageSigned ⟨0xCAFE⟩ 32 ⟨1, 3⟩ [1, 2, 3], .promote, .commit] = some (outputs, final) ∧
      Agrees after final := by
  apply ports_agree
  intro call member package payload signature same
  subst same
  simp only [List.mem_cons, stageSigned, reduceCtorEq, EngineCall.stage.injEq, List.not_mem_nil, or_false, false_or] at member
  rw [member.1]
  decide

end TptChassis.Proofs.PortsAgree
