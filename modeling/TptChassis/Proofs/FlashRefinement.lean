import TptChassis.OtaStorage
import TptChassis.Proofs.FlashAreas
import TptChassis.Proofs.OtaPrograms

/-! The flash refines the storage in memory. The C functions do as they are documented,
or they fail, or the power goes off in them; what an engine then does over the flash it
can also do over the slots and the journal in memory, with the faults of that storage. -/

namespace TptChassis.Proofs.FlashRefinement
open Ota OtaEffects OtaJournal OtaPrograms FlashAreas Slices Words

variable {φ ε : Type} {capacity len : Nat}

/-- What a flash keeps: the slots, the two bytes of the journal, and the slot that an
open area is for. -/
structure FlashView (φ : Type) (capacity : Nat) where
  slots : φ → Buffer (Buffer UInt8 capacity) 2
  journal : φ → UInt8 × UInt8
  opened : φ → FlashArea → Option UInt8

namespace FlashView
variable (view : FlashView φ capacity)

def Kept (before after : φ) : Prop := view.slots after = view.slots before ∧ view.journal after = view.journal before

theorem Kept.trans {view : FlashView φ capacity} {before middle after : φ} (first : view.Kept before middle)
    (second : view.Kept middle after) : view.Kept before after :=
  ⟨second.1.trans first.1, second.2.trans first.2⟩

/-- The data has been written to a slot, and nothing else has changed. -/
def Wrote (before after : φ) (slot : UInt8) (off : Nat) (data : List UInt8) : Prop :=
  ∃ s copied, (view.slots before).elements[slot.toNat]? = some s ∧ s.copy off data = some copied ∧
    view.slots after = (view.slots before).set slot.toNat copied ∧ view.journal after = view.journal before

def Stored (before after : φ) (bytes : UInt8 × UInt8) : Prop :=
  view.slots after = view.slots before ∧ view.journal after = bytes

/-- What a C function can do to the flash, with its reply, or without one when the power
goes off. A code other than zero is a failure. A write that fails or is cut has written
some first bytes; the journal is written as a whole or not at all. -/
inductive Does (before after : φ) : (call : FlashCall) → Option call.Reply → Prop where
  | lost {call} (kept : view.Kept before after) : Does before after call none
  | capacity (kept : view.Kept before after) : Does before after .tptSlotCapacity (some capacity)
  | opens {id area} (kept : view.Kept before after) (named : id.toNat < 2) (valid : area ≠ nullArea)
      (opened : view.opened after area = some id) : Does before after (.tptFlashOpen id) (some ((0 : Zerr), area))
  | openFails {id area} {rc : Zerr} (kept : view.Kept before after) (failed : rc ≠ 0 ∨ area = nullArea) :
      Does before after (.tptFlashOpen id) (some (rc, area))
  | writes {area off src slot} (held : view.opened before area = some slot) (wrote : view.Wrote before after slot off src)
      (still : view.opened after area = some slot) : Does before after (.tptFlashWrite area off src) (some (0 : Zerr))
  | writeFails {area off src slot} {rc : Zerr} (failed : rc ≠ 0) (count : Nat) (held : view.opened before area = some slot)
      (wrote : view.Wrote before after slot off (src.take count)) (still : view.opened after area = some slot) :
      Does before after (.tptFlashWrite area off src) (some rc)
  | writeTorn {area off src slot} (count : Nat) (held : view.opened before area = some slot)
      (wrote : view.Wrote before after slot off (src.take count)) : Does before after (.tptFlashWrite area off src) none
  | reads {area off dst} {rc : Zerr} {filled} (kept : view.Kept before after) :
      Does before after (.tptFlashRead area off dst) (some (rc, filled))
  | closes {area} {rc : Zerr} (kept : view.Kept before after) : Does before after (.tptFlashClose area) (some rc)
  | stateWrites {bytes} (stored : view.Stored before after bytes) :
      Does before after (.tptStateWrite bytes) (some (0 : Zerr))
  | stateWriteFails {bytes} {rc : Zerr} (failed : rc ≠ 0) (kept : view.Kept before after) :
      Does before after (.tptStateWrite bytes) (some rc)
  | stateWriteCut {bytes} (stored : view.Stored before after bytes) : Does before after (.tptStateWrite bytes) none
  | stateReads (kept : view.Kept before after) : Does before after .tptStateRead (some ((0 : Zerr), view.journal before))
  | stateReadFails {rc : Zerr} {bytes} (failed : rc ≠ 0) (kept : view.Kept before after) :
      Does before after .tptStateRead (some (rc, bytes))

/-- The calls that the C functions promise anything for: an open area is written or read
within the capacity, and closed. -/
def Proper (state : φ) : FlashCall → Prop
  | .tptFlashWrite area off src => (view.opened state area).isSome ∧ off + src.length ≤ capacity
  | .tptFlashRead area off dst => (view.opened state area).isSome ∧ off + dst.length ≤ capacity
  | .tptFlashClose area => (view.opened state area).isSome
  | _ => True

end FlashView

/-- The C functions do as documented, under every fault. -/
def Documented (flash : Device φ FlashCall FlashCall.Reply ε) (view : FlashView φ capacity) : Prop :=
  ∀ fault state call, view.Proper state call →
    view.Does state (flash.perform fault state call).2 call (flash.perform fault state call).1

/-- The flash holds what the storage holds. -/
structure Holds (view : FlashView φ capacity) (state : φ) (storage : MemStorage capacity) : Prop where
  slots : view.slots state = storage.slots
  journal : SlotState.decode (view.journal state).1 (view.journal state).2 = some storage.state

variable {flash : Device φ FlashCall FlashCall.Reply ε} {view : FlashView φ capacity} {target : Target}

theorem Holds.kept {before after : φ} {storage : MemStorage capacity} (holds : Holds view before storage)
    (kept : view.Kept before after) : Holds view after storage :=
  ⟨kept.1.trans holds.slots, kept.2 ▸ holds.journal⟩

theorem Holds.stored {before after : φ} {storage : MemStorage capacity} {state : SlotState} {bytes : UInt8 × UInt8}
    (holds : Holds view before storage) (stored : view.Stored before after bytes)
    (decoded : SlotState.decode bytes.1 bytes.2 = some state) : Holds view after { storage with state } :=
  ⟨stored.1.trans holds.slots, stored.2 ▸ decoded⟩

theorem Holds.wrote {before after : φ} {storage : MemStorage capacity} {slot : UInt8} {data : List UInt8} {count : Nat}
    (holds : Holds view before storage) (fits : data.length ≤ capacity)
    (wrote : view.Wrote before after slot 0 (data.take count)) :
    ∃ written, storage.writeSlot slot 0 data count = .ok written ∧ Holds view after written := by
  obtain ⟨s, copied, held, copies, slots, journal⟩ := wrote
  refine ⟨{ storage with slots := storage.slots.set slot.toNat copied }, ?_, ?_, journal ▸ holds.journal⟩
  · have room : 0 + data.length ≤ capacity := (Nat.zero_add _).symm ▸ fits
    rw [holds.slots] at held
    simp only [MemStorage.writeSlot, held, dif_pos room]
    have same : s.write 0 (data.take count) (Buffer.copy_elements copies).1 = copied :=
      Buffer.ext (Buffer.copy_elements copies).2.symm
    rw [same]
  · rw [slots, holds.slots]

/-- Writing none of the bytes changes nothing. -/
theorem write_nothing (storage : MemStorage capacity) (slot : UInt8) (data : List UInt8) :
    (∃ error, storage.writeSlot slot 0 data 0 = .error error) ∨ storage.writeSlot slot 0 data 0 = .ok storage := by
  simp only [MemStorage.writeSlot]
  cases held : storage.slots.elements[slot.toNat]? with
  | none => exact .inl ⟨_, rfl⟩
  | some s =>
    by_cases fits : 0 + data.length ≤ capacity
    · have same : s.write 0 (data.take 0) (Nat.zero_le _) = s := Buffer.ext (overwrite_nil s.elements 0)
      have unchanged : storage.slots.set slot.toNat s = storage.slots := by
        obtain ⟨inside, rfl⟩ := List.getElem?_eq_some_iff.mp held
        exact Buffer.ext (List.set_getElem_self inside)
      refine .inr ?_
      simp only [dif_pos fits]
      rw [same, unchanged]
    · exact .inl ⟨_, dif_neg fits⟩

/-- A fault that lets no byte of a slot write through. -/
theorem perform_nothing (storage : MemStorage capacity) (slot : UInt8) (data : List UInt8) :
    storage.perform (.cut 0) (.writeSlot slot 0 data) = (none, storage) ∧
      storage.perform (.fail 0) (.writeSlot slot 0 data) = (some (.error .storage), storage) := by
  rcases write_nothing storage slot data with ⟨error, refused⟩ | same
  · simp only [MemStorage.perform, Fault.reach, refused]
    exact ⟨rfl, rfl⟩
  · simp only [MemStorage.perform, Fault.reach, same]
    exact ⟨rfl, rfl⟩

/-- The replies of the flash to a storage call, beside those of the storage in memory.
They differ only in the error of a slot write. -/
inductive Answers (capacity : Nat) : (call : StorageCall) → call.Reply → call.Reply → Prop where
  | capacity : Answers capacity .slotCapacity capacity capacity
  | read {state} (recordable : Recordable state) : Answers capacity .readState (.ok state) (.ok state)
  | readFails : Answers capacity .readState (.error .storage) (.error .storage)
  | stored {state} : Answers capacity (.writeState state) (.ok ()) (.ok ())
  | storeFails {state} : Answers capacity (.writeState state) (.error .storage) (.error .storage)
  | wrote {slot data} (named : slot.toNat < 2) : Answers capacity (.writeSlot slot 0 data) (.ok ()) (.ok ())
  | writeFails {slot data} : Answers capacity (.writeSlot slot 0 data) (.error .writeFailed) (.error .storage)

/-- How a call ends on both sides: the power goes off, or it is answered. -/
def Ends (view : FlashView φ capacity) (call : StorageCall) (ended : Option (Option call.Reply) × φ)
    (performed : Option call.Reply × MemStorage capacity) : Prop :=
  Holds view ended.2 performed.2 ∧
    ((ended.1 = none ∧ performed.1 = none) ∨
      ∃ reply other, ended.1 = some (some reply) ∧ performed.1 = some other ∧ Answers capacity call reply other)

variable {state : φ} {storage : MemStorage capacity}

/-- How a program that begins with a C call ends, by what that call can do. -/
theorem request_ends {α : Type} {ending : Option α × φ → Prop} (documented : Documented flash view) (made : FlashCall)
    (proper : view.Proper state made) {next : made.Reply → Ffi α} (plan : List ε)
    (lost : ∀ after, view.Does state after made none → ending (none, after))
    (answered : ∀ reply after, view.Does state after made (some reply) → ∀ plan, ending (flash.run (next reply) plan after)) :
    ending (flash.run (.request made next) plan state) := by
  have does := documented (plan.headD flash.quiet) state made proper
  cases performed : flash.perform (plan.headD flash.quiet) state made with
  | mk reply after =>
    rw [performed] at does
    cases reply with
    | none =>
      rw [Device.run_lost plan performed]
      exact lost after does
    | some reply =>
      rw [Device.run_reply plan performed]
      exact answered reply after does plan.tail

/-- Some fault makes the storage end a call as the flash has ended it. -/
def Matched (view : FlashView φ capacity) (storage : MemStorage capacity) (call : StorageCall)
    (ended : Option (Option call.Reply) × φ) : Prop :=
  ∃ fault, Ends view call ended (storage.perform fault call)

/-- The type of the reply computes, so programs are replaced here and not by rewriting. -/
theorem Matched.by_eq {call : StorageCall} {first second : Ffi (Option call.Reply)} {plan : List ε} (same : first = second)
    (matched : Matched view storage call (flash.run second plan state)) :
    Matched view storage call (flash.run first plan state) := same ▸ matched

theorem slotCapacity_matched (documented : Documented flash view) (holds : Holds view state storage) (plan : List ε) :
    Matched view storage .slotCapacity (flash.run (ZephyrFlashStorage.perform target .slotCapacity) plan state) := by
  apply request_ends documented .tptSlotCapacity trivial plan
  · intro after does
    cases does with
    | lost kept => exact ⟨.cut 0, holds.kept kept, .inl ⟨rfl, rfl⟩⟩
  · intro reply after does _
    cases does with
    | capacity kept => exact ⟨.none, holds.kept kept, .inr ⟨_, _, rfl, rfl, .capacity⟩⟩

theorem readState_matched (documented : Documented flash view) (holds : Holds view state storage) (plan : List ε) :
    Matched view storage .readState (flash.run (ZephyrFlashStorage.perform target .readState) plan state) := by
  rw [readState_calls]
  apply request_ends documented .tptStateRead trivial plan
  · intro after does
    cases does with
    | lost kept => exact ⟨.cut 0, holds.kept kept, .inl ⟨rfl, rfl⟩⟩
  · intro reply after does _
    cases does with
    | stateReads kept =>
      have read : loaded 0 (view.journal state).1 (view.journal state).2 = .ok storage.state := by
        rw [loaded, if_pos rfl, holds.journal]
        rfl
      refine ⟨.none, holds.kept kept, .inr ⟨_, _, congrArg (fun read => some (some read)) read, rfl, ?_⟩⟩
      exact .read (decode_recordable holds.journal)
    | @stateReadFails rc bytes failed kept =>
      have fails : loaded rc bytes.1 bytes.2 = .error .storage := if_neg failed
      exact ⟨.fail 0, holds.kept kept, .inr ⟨_, _, congrArg (fun read => some (some read)) fails, rfl, .readFails⟩⟩

theorem coded_failed {error : OtaError} {rc : Zerr} (failed : rc ≠ 0) : coded error rc = .error error := if_neg failed

theorem writeState_matched (documented : Documented flash view) (holds : Holds view state storage) {next : SlotState}
    (recordable : Recordable next) (plan : List ε) :
    Matched view storage (.writeState next) (flash.run (ZephyrFlashStorage.perform target (.writeState next)) plan state) := by
  obtain ⟨kind, value, encoded, decoded⟩ := encode_decode recordable
  rw [writeState_calls, encoded]
  apply request_ends documented (.tptStateWrite (kind, value)) trivial plan
  · intro after does
    cases does with
    | lost kept => exact ⟨.cut 0, holds.kept kept, .inl ⟨rfl, rfl⟩⟩
    | stateWriteCut stored => exact ⟨.cut 1, holds.stored stored decoded, .inl ⟨rfl, rfl⟩⟩
  · intro reply after does _
    cases does with
    | stateWrites stored => exact ⟨.none, holds.stored stored decoded, .inr ⟨_, _, rfl, rfl, .stored⟩⟩
    | stateWriteFails failed kept =>
      have code := congrArg (fun result => some (some result)) (@coded_failed .storage _ failed)
      exact ⟨.fail 0, holds.kept kept, .inr ⟨_, _, code, rfl, .storeFails⟩⟩

/-- What a slot write leaves, under the fault with the same reach. -/
theorem perform_wrote {middle : φ} {slot : UInt8} {data : List UInt8} {count : Nat} {fault : Fault}
    (holds : Holds view state storage) (fits : data.length ≤ capacity)
    (wrote : view.Wrote state middle slot 0 (data.take count)) (reach : fault.reach data.length = count) :
    (storage.perform fault (.writeSlot slot 0 data)).1 = fault.answer (.ok ()) ∧
      Holds view middle (storage.perform fault (.writeSlot slot 0 data)).2 := by
  obtain ⟨written, stored, held⟩ := holds.wrote fits wrote
  simp only [MemStorage.perform, reach, stored]
  exact ⟨rfl, held⟩

/-- The area is closed after a write: the power can still go off. -/
theorem close_matched (documented : Documented flash view) {middle : φ} {slot : UInt8} {data : List UInt8} {count : Nat}
    {area : FlashArea} {rc : Zerr} (holds : Holds view state storage) (named : slot.toNat < 2) (fits : data.length ≤ capacity)
    (wrote : view.Wrote state middle slot 0 (data.take count)) (still : view.opened middle area = some slot)
    (whole : rc = 0 → count = data.length) (plan : List ε) :
    Matched view storage (.writeSlot slot 0 data)
      (flash.run (.request (.tptFlashClose area) fun _ => .pure (some (coded .writeFailed rc))) plan middle) := by
  apply request_ends documented (.tptFlashClose area) (Option.isSome_of_mem still) plan
  · intro after does
    cases does with
    | lost kept =>
      have cut := perform_wrote holds fits wrote (rfl : (Fault.cut count).reach data.length = count)
      exact ⟨.cut count, cut.2.kept kept, .inl ⟨rfl, cut.1⟩⟩
  · intro reply after does _
    cases does with
    | closes kept =>
      by_cases success : rc = 0
      · have written := perform_wrote holds fits wrote (whole success ▸ rfl : Fault.none.reach data.length = count)
        cases success
        exact ⟨.none, written.2.kept kept, .inr ⟨_, _, rfl, written.1, .wrote named⟩⟩
      · have failed := perform_wrote holds fits wrote (rfl : (Fault.fail count).reach data.length = count)
        have code := congrArg (fun result => some (some result)) (@coded_failed .writeFailed _ success)
        exact ⟨.fail count, failed.2.kept kept, .inr ⟨_, _, code, failed.1, .writeFails⟩⟩

/-- The area is written and closed. -/
theorem write_matched (documented : Documented flash view) {middle : φ} {slot : UInt8} {data : List UInt8} {area : FlashArea}
    (holds : Holds view middle storage) (named : slot.toNat < 2) (fits : data.length ≤ capacity)
    (opened : view.opened middle area = some slot) (plan : List ε) :
    Matched view storage (.writeSlot slot 0 data)
      (flash.run (.request (.tptFlashWrite area 0 data) fun (rc : Zerr) =>
        .request (.tptFlashClose area) fun _ => .pure (some (coded .writeFailed rc))) plan middle) := by
  have proper : view.Proper middle (.tptFlashWrite area 0 data) :=
    ⟨Option.isSome_of_mem opened, (Nat.zero_add _).symm ▸ fits⟩
  apply request_ends documented (.tptFlashWrite area 0 data) proper plan
  · intro after does
    cases does with
    | lost kept =>
      have nothing := (perform_nothing storage slot data).1
      refine ⟨.cut 0, ?_⟩
      rw [nothing]
      exact ⟨holds.kept kept, .inl ⟨rfl, rfl⟩⟩
    | writeTorn count held wrote =>
      cases held.symm.trans opened
      have cut := perform_wrote holds fits wrote (rfl : (Fault.cut count).reach data.length = count)
      exact ⟨.cut count, cut.2, .inl ⟨rfl, cut.1⟩⟩
  · intro reply after does rest
    cases does with
    | writes held wrote still =>
      cases held.symm.trans opened
      exact close_matched documented holds named fits ((List.take_length).symm ▸ wrote) still (fun _ => rfl) rest
    | writeFails failed count held wrote still =>
      cases held.symm.trans opened
      exact close_matched documented holds named fits wrote still (fun success => absurd success failed) rest

/-- A slot write at offset zero, once its bounds are checked. -/
theorem write_calls (slot : UInt8) (data : List UInt8) :
    ((Ffi.withFlashArea slot fun area => Ffi.ask (.tptFlashWrite area 0 data)).bind fun (written : Option Zerr) =>
      .pure (some (written.elim (.error .writeFailed) (coded .writeFailed)))) =
    .request (.tptFlashOpen slot) fun (opened : Zerr × FlashArea) =>
      if opened.1 ≠ 0 ∨ opened.2 = nullArea then .pure (some (Except.error OtaError.writeFailed))
      else .request (.tptFlashWrite opened.2 0 data) fun (rc : Zerr) =>
        .request (.tptFlashClose opened.2) fun _ => .pure (some (coded .writeFailed rc)) := by
  apply congrArg (Program.request (FlashCall.tptFlashOpen slot))
  funext (opened : Zerr × FlashArea)
  change Program.bind (ite (opened.1 ≠ 0 ∨ opened.2 = nullArea) _ _) _ = _
  split
  · rfl
  · rfl

theorem bounded_within {α : Type} {last capacity : Nat} (within : last ≤ capacity) (beyond : α) (rest : Ffi (Option α)) :
    bounded (some last) capacity beyond rest = rest := if_neg (Nat.not_lt.mpr within)

theorem writeSlot_matched (documented : Documented flash view) (holds : Holds view state storage) {slot : UInt8}
    {data : List UInt8} (fits : data.length ≤ capacity) (short : data.length ≤ otaMaxPayload) (plan : List ε) :
    Matched view storage (.writeSlot slot 0 data)
      (flash.run (ZephyrFlashStorage.perform target (.writeSlot slot 0 data)) plan state) := by
  have nothing := perform_nothing storage slot data
  have lost : ∀ {after : φ}, view.Kept state after → Matched view storage (.writeSlot slot 0 data) (none, after) := by
    intro after kept
    refine ⟨.cut 0, ?_⟩
    rw [nothing.1]
    exact ⟨holds.kept kept, .inl ⟨rfl, rfl⟩⟩
  have failed : ∀ {after : φ}, view.Kept state after →
      Matched view storage (.writeSlot slot 0 data) (some (some (.error .writeFailed)), after) := by
    intro after kept
    refine ⟨.fail 0, ?_⟩
    rw [nothing.2]
    exact ⟨holds.kept kept, .inr ⟨_, _, rfl, rfl, .writeFails⟩⟩
  have sum : target.add 0 data.length = some (0 + data.length) :=
    (target.zero_add (Nat.lt_of_le_of_lt short (by decide))).trans (congrArg some (Nat.zero_add _).symm)
  rw [writeSlot_calls, sum]
  apply request_ends documented .tptSlotCapacity trivial plan
  · intro after does
    cases does with
    | lost kept => exact lost kept
  · intro reply asked does plan
    cases does with
    | capacity kept =>
      have within : 0 + data.length ≤ capacity := (Nat.zero_add _).symm ▸ fits
      refine Matched.by_eq ((bounded_within within _ _).trans (write_calls slot data)) ?_
      apply request_ends documented (.tptFlashOpen slot) trivial plan
      · intro after does
        cases does with
        | lost kept' => exact lost (kept.trans kept')
      · intro reply after does plan
        cases does with
        | opens kept' named valid opened =>
          have success : ¬ ((0 : Zerr) ≠ 0 ∨ _ = nullArea) := not_or.mpr ⟨not_not.mpr rfl, valid⟩
          refine Matched.by_eq (if_neg success) ?_
          exact write_matched documented (holds.kept (kept.trans kept')) named fits opened plan
        | openFails kept' fails =>
          refine Matched.by_eq (if_pos fails) ?_
          exact failed (kept.trans kept')

/-- How a method ends on both sides: with the same result, and not by a panic. -/
def Concluded (view : FlashView φ capacity) (ended : Option (Option (Except Failure EngineReply)) × φ)
    (performed : Option (Except Failure EngineReply) × MemStorage capacity) : Prop :=
  Holds view ended.2 performed.2 ∧ ended.1 = performed.1.map some ∧ performed.1 ≠ some (.error .panic)

/-- What the first program does over the flash, the second can do over the storage in
memory, under some faults. -/
def Refines (flash : Device φ FlashCall FlashCall.Reply ε) (view : FlashView φ capacity) (target : Target)
    (first second : Program StorageCall StorageCall.Reply (Except Failure EngineReply)) : Prop :=
  ∀ (plan : List ε) (state : φ) (storage : MemStorage capacity), Holds view state storage → ∃ faults,
    Concluded view (flash.run (first.under (ZephyrFlashStorage.perform target)) plan state)
      ((MemStorage.device capacity).run second faults storage)

theorem Refines.pure {result : Except Failure EngineReply} (sound : result ≠ .error .panic) :
    Refines flash view target (.pure result) (.pure result) :=
  fun _ _ _ holds => ⟨[], holds, rfl, fun same => sound (Option.some.inj same)⟩

/-- Call by call: a call that is matched, and programs that go on alike from the replies. -/
theorem Refines.request {call : StorageCall}
    {first second : call.Reply → Program StorageCall StorageCall.Reply (Except Failure EngineReply)}
    (matched : ∀ (plan : List ε) (state : φ) (storage : MemStorage capacity), Holds view state storage →
      Matched view storage call (flash.run (ZephyrFlashStorage.perform target call) plan state))
    (following : ∀ reply other, Answers capacity call reply other → Refines flash view target (first reply) (second other)) :
    Refines flash view target (.request call first) (.request call second) := by
  intro plan state storage holds
  obtain ⟨fault, kept, ends⟩ := matched plan state storage holds
  rw [Program.under]
  rcases flash.run_bind (ZephyrFlashStorage.perform target call) _ plan state with
    ⟨after, ran, stops, _⟩ | ⟨result, after, rest, ran, goes, _⟩
  · rw [ran] at kept ends
    rcases ends with ⟨_, lost⟩ | ⟨_, _, answered, _⟩
    · refine ⟨[fault], ?_⟩
      have performed : (MemStorage.device capacity).perform fault storage call = (none, (storage.perform fault call).2) :=
        Prod.ext lost rfl
      rw [stops, Device.run_lost [fault] performed]
      exact ⟨kept, rfl, nofun⟩
    · cases answered
  · rw [ran] at kept ends
    rcases ends with ⟨lost, _⟩ | ⟨reply, other, answered, replied, answers⟩
    · cases lost
    · cases answered
      obtain ⟨faults, concluded⟩ := following reply other answers rest after _ kept
      refine ⟨fault :: faults, ?_⟩
      have performed : (MemStorage.device capacity).perform fault storage call = (some other, (storage.perform fault call).2) :=
        Prod.ext replied rfl
      rw [goes, Device.run_reply (fault :: faults) performed]
      exact concluded

theorem journaled_refines (documented : Documented flash view) {failing : OtaError → OtaError}
    {decided : SlotState → Except Failure (UInt8 × SlotState)}
    (sound : ∀ state, Recordable state →
      (∃ error, decided state = .error (.error error)) ∨ ∃ slot next, decided state = .ok (slot, next) ∧ Recordable next) :
    Refines flash view target (journaled failing decided) (journaled failing decided) := by
  apply Refines.request
  · exact fun plan _ _ holds => readState_matched documented holds plan
  intro reply other answers
  cases answers with
  | readFails => exact .pure nofun
  | @read state recordable =>
    rcases sound state recordable with ⟨error, decision⟩ | ⟨slot, next, decision, kept⟩
    · simp only [decision]
      exact .pure nofun
    · simp only [decision]
      apply Refines.request
      · exact fun plan _ _ holds => writeState_matched documented holds kept plan
      intro reply other answers
      cases answers with
      | stored => exact .pure nofun
      | storeFails => exact .pure nofun

theorem staging_refines (documented : Documented flash view) (signer : SignatureScheme len) (package : UpdatePackage)
    (payload : List UInt8) (signature : Buffer UInt8 len) :
    Refines flash view target (staging signer package payload signature) (staging signer package payload signature) := by
  unfold staging
  split
  next => exact .pure nofun
  next =>
    apply Refines.request
    · exact fun plan _ _ holds => slotCapacity_matched documented holds plan
    intro reply other answers
    cases answers
    split
    next => exact .pure nofun
    next room =>
      split
      next => exact .pure nofun
      next =>
        have fits : payload.length ≤ capacity ∧ payload.length ≤ otaMaxPayload := by omega
        apply Refines.request
        · exact fun plan _ _ holds => writeSlot_matched documented holds fits.1 fits.2 plan
        intro reply other answers
        cases answers with
        | writeFails => exact .pure nofun
        | wrote named =>
          have recordable : Recordable (.pending package.slot) := named
          apply Refines.request
          · exact fun plan _ _ holds => writeState_matched documented holds recordable plan
          intro reply other answers
          cases answers with
          | stored => exact .pure nofun
          | storeFails => exact .pure nofun

theorem program_refines (documented : Documented flash view) (target : Target) (signer : SignatureScheme len)
    (call : EngineCall len) :
    Refines flash view target (call.program signer) (call.program signer) := by
  cases moves : transition call with
  | some decided =>
    obtain ⟨failing, journaled⟩ := program_journaled signer moves
    rw [journaled]
    exact journaled_refines documented fun state => moves_recordable moves
  | none =>
    cases call with
    | state =>
      apply Refines.request
      · exact fun plan _ _ holds => readState_matched documented holds plan
      intro reply other answers
      cases answers with
      | read => exact .pure nofun
      | readFails => exact .pure nofun
    | stage package payload signature =>
      rw [program_staging]
      exact staging_refines documented signer package payload signature
    | _ => cases moves

theorem step_refines (documented : Documented flash view) (signer : SignatureScheme len) (target : Target)
    (input : FlashInput ε len) (holds : Holds view state storage) :
    ∃ chosen output next following, chosen.call = input.call ∧
      (flashEngine signer target flash).step state input = some (output, next) ∧
      (engine signer capacity).step storage chosen = some (output, following) ∧ Holds view next following := by
  obtain ⟨faults, kept, same, sound⟩ :=
    program_refines documented target signer input.call input.plan state storage holds
  refine ⟨⟨input.call, faults⟩, ?_⟩
  simp only [flashEngine, engine]
  generalize flash.run _ input.plan state = ended at kept same
  generalize (MemStorage.device capacity).run _ faults storage = performed at kept same sound
  obtain ⟨ended, next⟩ := ended
  obtain ⟨performed, following⟩ := performed
  cases same
  cases performed with
  | none => exact ⟨none, next, following, trivial, rfl, rfl, kept⟩
  | some result =>
    cases result with
    | ok reply => exact ⟨some (.ok reply), next, following, trivial, rfl, rfl, kept⟩
    | error failure =>
      cases failure with
      | error error => exact ⟨some (.error error), next, following, trivial, rfl, rfl, kept⟩
      | panic => exact absurd rfl sound

/-- An engine over the flash does only what the engine over two slots and a journal in
memory does. Whatever befalls the C functions, no call panics, and the same calls on the
storage in memory give the same results and leave the same slots and journal, under
some faults of that storage. -/
theorem flash_refines_memory (documented : Documented flash view) (signer : SignatureScheme len) (target : Target)
    (inputs : List (FlashInput ε len)) (holds : Holds view state storage) :
    ∃ chosen outputs last final, chosen.map EngineInput.call = inputs.map FlashInput.call ∧
      (flashEngine signer target flash).run state inputs = some (outputs, last) ∧
      (engine signer capacity).run storage chosen = some (outputs, final) ∧ Holds view last final :=
  Machine.run_refines FlashInput.call EngineInput.call inputs
    (fun input _ _ holds => step_refines documented signer target input holds) state storage holds

namespace MemoryFlash

/-- An area of this flash is the number of its slot and one. -/
def opened (area : FlashArea) : Option UInt8 :=
  if area = 1 then some 0
  else if area = 2 then some 1
  else none

def contents (capacity : Nat) : FlashView (Buffer (Buffer UInt8 capacity) 2 × UInt8 × UInt8) capacity where
  slots := Prod.fst
  journal := Prod.snd
  opened _ := opened

def write (slots : Buffer (Buffer UInt8 capacity) 2) (area : FlashArea) (off : Nat) (src : List UInt8) :
    Checked (Buffer (Buffer UInt8 capacity) 2) := do
  let slot ← opened area
  let s ← slots.elements[slot.toNat]?
  return slots.set slot.toNat (← s.copy off src)

def answer (state : Buffer (Buffer UInt8 capacity) 2 × UInt8 × UInt8) :
    (call : FlashCall) → call.Reply × Buffer (Buffer UInt8 capacity) 2 × UInt8 × UInt8
  | .tptFlashOpen id => (if id.toNat < 2 then ((0 : Zerr), id.toNat + 1) else ((-1 : Zerr), nullArea), state)
  | .tptFlashWrite area off src =>
    match write state.1 area off src with
    | some slots => ((0 : Zerr), slots, state.2)
    | none => ((-1 : Zerr), state)
  | .tptFlashRead _ _ dst => (((-1 : Zerr), ⟨dst, rfl⟩), state)
  | .tptFlashClose _ => ((0 : Zerr), state)
  | .tptStateWrite bytes => ((0 : Zerr), state.1, bytes)
  | .tptStateRead => (((0 : Zerr), state.2), state)
  | .tptSlotCapacity => (capacity, state)

/-- A flash in memory that answers as long as there is power. -/
def device (capacity : Nat) : Device (Buffer (Buffer UInt8 capacity) 2 × UInt8 × UInt8) FlashCall FlashCall.Reply Bool where
  quiet := true
  perform powered state call := if powered then ((answer state call).map some id) else (none, state)

theorem opened_named {area : FlashArea} {slot : UInt8} (held : opened area = some slot) : slot.toNat < 2 := by
  unfold opened at held
  split at held
  · cases held
    decide
  · split at held
    · cases held
      decide
    · cases held

theorem documented (capacity : Nat) : Documented (device capacity) (contents capacity) := by
  intro powered state call proper
  cases powered with
  | false => exact .lost ⟨rfl, rfl⟩
  | true =>
    change (contents capacity).Does state (answer state call).2 call (some (answer state call).1)
    cases call with
    | tptFlashOpen id =>
      by_cases named : id.toNat < 2
      · have answered : answer state (.tptFlashOpen id) = (((0 : Zerr), id.toNat + 1), state) :=
          congrArg (fun reply => (reply, state)) (if_pos named)
        have area : opened (id.toNat + 1) = some id := by
          rcases slot_cases named with rfl | rfl
          · rfl
          · rfl
        rw [answered]
        exact .opens ⟨rfl, rfl⟩ named (Nat.succ_ne_zero _) area
      · have answered : answer state (.tptFlashOpen id) = (((-1 : Zerr), nullArea), state) :=
          congrArg (fun reply => (reply, state)) (if_neg named)
        rw [answered]
        exact .openFails ⟨rfl, rfl⟩ (.inr rfl)
    | tptFlashWrite area off src =>
      obtain ⟨slot, held⟩ := Option.isSome_iff_exists.mp proper.1
      have exists_slot : slot.toNat < state.1.elements.length := state.1.sized.symm ▸ opened_named held
      obtain ⟨copied, copies, _⟩ := (state.1.elements[slot.toNat]).copy_eq proper.2
      have inside : state.1.elements[slot.toNat]? = some state.1.elements[slot.toNat] := List.getElem?_eq_getElem exists_slot
      have wrote : write state.1 area off src = some (state.1.set slot.toNat copied) := by
        rw [write, show opened area = some slot from held]
        simp only [Option.bind_eq_bind, Option.bind_some, inside, copies, Option.pure_def]
      have answered : answer state (.tptFlashWrite area off src) = ((0 : Zerr), state.1.set slot.toNat copied, state.2) := by
        simp only [answer, wrote]
        rfl
      rw [answered]
      exact .writes held ⟨_, copied, inside, copies, rfl, rfl⟩ held
    | tptFlashRead => exact .reads ⟨rfl, rfl⟩
    | tptFlashClose => exact .closes ⟨rfl, rfl⟩
    | tptStateWrite => exact .stateWrites ⟨rfl, rfl⟩
    | tptStateRead => exact .stateReads ⟨rfl, rfl⟩
    | tptSlotCapacity => exact .capacity ⟨rfl, rfl⟩

end MemoryFlash

/-- The power goes off while a slot is written, and the engine recovers. -/
theorem flash_refines_memory_cut :
    Documented (MemoryFlash.device 2) (MemoryFlash.contents 2) ∧
      Holds (MemoryFlash.contents 2) (.fill 2 (.fill 2 0), 0, 0) (MemStorage.new 2) ∧
      ∃ chosen outputs last final,
        chosen.map EngineInput.call = [stageSigned ⟨7⟩ 4 ⟨1, 2⟩ [5, 6], .recover, .state] ∧
        (flashEngine ((⟨7⟩ : DemoSigner).scheme 4) ⟨4294967296, by decide⟩ (MemoryFlash.device 2)).run (.fill 2 (.fill 2 0), 0, 0)
          [⟨stageSigned ⟨7⟩ 4 ⟨1, 2⟩ [5, 6], [true, true, false]⟩, ⟨.recover, []⟩, ⟨.state, [false]⟩] = some (outputs, last) ∧
        (engine ((⟨7⟩ : DemoSigner).scheme 4) 2).run (MemStorage.new 2) chosen = some (outputs, final) ∧
        Holds (MemoryFlash.contents 2) last final := by
  have documented := MemoryFlash.documented 2
  have holds : Holds (MemoryFlash.contents 2) (.fill 2 (.fill 2 0), 0, 0) (MemStorage.new 2) := ⟨rfl, rfl⟩
  refine ⟨documented, holds, ?_⟩
  exact flash_refines_memory documented ((⟨7⟩ : DemoSigner).scheme 4) ⟨4294967296, by decide⟩
    [⟨stageSigned ⟨7⟩ 4 ⟨1, 2⟩ [5, 6], [true, true, false]⟩, ⟨.recover, []⟩, ⟨.state, [false]⟩] holds

end TptChassis.Proofs.FlashRefinement
