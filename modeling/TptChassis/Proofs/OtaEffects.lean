import TptChassis.OtaStorage

/-! Everything one engine call can do to the storage, whatever its storage calls
meet. Later results use this list and never look inside the programs again. -/

namespace TptChassis.Proofs.OtaEffects
open Ota Slices

variable {capacity len : Nat}

/-- The bytes `encode_header` writes. -/
def header (package : UpdatePackage) : List UInt8 :=
  otaMagic ++ [otaFormatVersion] ++ [package.slot] ++ Words.toBeBytes package.payloadLen

theorem encodeHeader_writes {size : Nat} (package : UpdatePackage) (out : Buffer UInt8 size) (room : headerLen ≤ size) :
    ∃ written, package.encodeHeader out = some written ∧
      written.elements.take headerLen = header package := by
  simp only [headerLen] at room
  have fits : ([] : List UInt8).length + otaMagic.length ≤ size := Nat.le_trans (Nat.le_of_ble_eq_true rfl) room
  obtain ⟨first, magic, held⟩ := out.copy_extends [] otaMagic fits rfl
  obtain ⟨second, version, held⟩ := first.copy_extends otaMagic [otaFormatVersion] (Nat.le_trans (by decide) room) held
  obtain ⟨third, slot, held⟩ := second.copy_extends (otaMagic ++ [otaFormatVersion]) [package.slot]
    (Nat.le_trans (Nat.le_of_ble_eq_true rfl) room) held
  obtain ⟨written, length, held⟩ := third.copy_extends (otaMagic ++ [otaFormatVersion] ++ [package.slot])
    (Words.toBeBytes package.payloadLen) room held
  refine ⟨written, ?_, held⟩
  change out.copy 0 otaMagic = some first at magic
  change first.copy 4 _ = some second at version
  change second.copy 5 _ = some third at slot
  simp only [UpdatePackage.encodeHeader, Option.bind_eq_bind, magic, version, slot, Option.bind_some]
  exact length

theorem signedBytes_eq (package : UpdatePackage) {payload : List UInt8} (fits : payload.length ≤ otaMaxPayload) :
    signedBytes package payload = some (header package ++ payload) := by
  obtain ⟨prepared, encoded, held⟩ :=
    encodeHeader_writes package (.fill (headerLen + otaMaxPayload) 0) (Nat.le_add_right _ _)
  obtain ⟨signed, copied, held⟩ := prepared.copy_extends (header package) payload (Nat.add_le_add_left fits _) held
  change prepared.copy headerLen payload = some signed at copied
  have inside : headerLen + payload.length ≤ signed.elements.length := by
    rw [signed.sized]
    omega
  simp only [signedBytes, Option.bind_eq_bind, encoded, copied, Option.bind_some, slice_front inside]
  rw [List.length_append] at held
  exact congrArg some held

/-- A package that passes every check of `stage`. -/
structure Accepts (signer : SignatureScheme len) (capacity : Nat) (package : UpdatePackage) (payload : List UInt8)
    (signature : Buffer UInt8 len) : Prop where
  length : payload.length = package.payloadLen.toNat
  room : payload.length ≤ capacity ∧ payload.length ≤ otaMaxPayload
  verified : signer.verify (header package ++ payload) signature = true

def stageSigned (signer : DemoSigner) (len : Nat) (package : UpdatePackage) (payload : List UInt8) : EngineCall len :=
  .stage package payload (signer.hash len (header package ++ payload))

theorem accepts_signed (signer : DemoSigner) {package : UpdatePackage} {payload : List UInt8}
    (length : payload.length = package.payloadLen.toNat)
    (room : payload.length ≤ capacity ∧ payload.length ≤ otaMaxPayload) :
    Accepts (signer.scheme len) capacity package payload (signer.hash len (header package ++ payload)) :=
  ⟨length, room, decide_eq_true rfl⟩

def promotion (candidate : UInt8) : Except Failure (UInt8 × SlotState) :=
  match checkedSub 1 candidate with
  | none => .error .panic
  | some fallback => .ok (candidate, .testing candidate fallback)

/-- What `recover` does to the journal: the slot it returns and the state it
writes. The other methods that only move the journal are described alike. -/
def recovered : SlotState → Except Failure (UInt8 × SlotState)
  | .activeSlot0 => .ok (0, .activeSlot0)
  | .activeSlot1 => .ok (1, .activeSlot1)
  | .pending candidate => promotion candidate
  | .testing _ fallback => .ok (if fallback = 0 then 0 else 1, .settled fallback)

def promoted : SlotState → Except Failure (UInt8 × SlotState)
  | .pending candidate => promotion candidate
  | _ => .error (.error .noCandidate)

def committed : SlotState → Except Failure (UInt8 × SlotState)
  | .testing active _ => .ok (active, .settled active)
  | _ => .error (.error .invalidState)

def rolledBack : SlotState → Except Failure (UInt8 × SlotState)
  | .testing active fallback => .ok (active, .settled fallback)
  | _ => .error (.error .invalidState)

def transition : EngineCall len → Option (SlotState → Except Failure (UInt8 × SlotState))
  | .recover => some recovered
  | .promote => some promoted
  | .commit => some committed
  | .rollback => some rolledBack
  | .state | .stage .. => none

theorem transition_recover : transition (.recover : EngineCall len) = some recovered := rfl
theorem transition_promote : transition (.promote : EngineCall len) = some promoted := rfl
theorem transition_rollback : transition (.rollback : EngineCall len) = some rolledBack := rfl

/-- A method that reads the journal, decides and writes it. -/
def journaled (failing : OtaError → OtaError) (decided : SlotState → Except Failure (UInt8 × SlotState)) :
    Program StorageCall StorageCall.Reply (Except Failure EngineReply) :=
  .request .readState fun
    | .error error => .pure (.error (.error error))
    | .ok state =>
      match decided state with
      | .error failure => .pure (.error failure)
      | .ok (slot, next) => .request (.writeState next) fun
        | .error error => .pure (.error (.error (failing error)))
        | .ok () => .pure (.ok (.slot slot))

theorem settled_activeSlot (slot : UInt8) :
    (SlotState.settled slot).activeSlot = some (if slot = 0 then 0 else 1) := by
  unfold SlotState.settled
  split <;> rfl

private theorem reads {α : Type} {first second : StorageCall.readState.Reply → Program StorageCall StorageCall.Reply α}
    (failed : ∀ error, first (.error error) = second (.error error))
    (read : ∀ state, first (.ok state) = second (.ok state)) :
    Program.request StorageCall.readState first = Program.request StorageCall.readState second := by
  apply congrArg
  funext reply
  cases reply with
  | error error => exact failed error
  | ok state => exact read state

private theorem writes {α : Type} {next : SlotState}
    {first second : (StorageCall.writeState next).Reply → Program StorageCall StorageCall.Reply α}
    (failed : ∀ error, first (.error error) = second (.error error)) (written : first (.ok ()) = second (.ok ())) :
    Program.request (StorageCall.writeState next) first = Program.request (StorageCall.writeState next) second := by
  apply congrArg
  funext reply
  cases reply with
  | error error => exact failed error
  | ok => exact written

private theorem recover_journaled (signer : SignatureScheme len) {decided}
    (moves : transition (.recover : EngineCall len) = some decided) :
    (EngineCall.recover).program signer = journaled id decided := by
  cases moves
  refine reads (fun _ => rfl) ?_
  intro state
  cases state with
  | pending candidate =>
    change (do
      let active ← (do
        let fallback ← Engine.checked (checkedSub 1 candidate)
        let active ← Engine.checked (SlotState.testing candidate fallback).activeSlot
        Engine.propagate (← Engine.writeState (.testing candidate fallback))
        return active)
      return EngineReply.slot active : Engine EngineReply) = _
    simp only [recovered, promotion]
    cases checkedSub 1 candidate with
    | none => rfl
    | some fallback => exact writes (fun _ => rfl) rfl
  | testing active fallback =>
    change (do
      let active ← (do
        let active ← Engine.checked (SlotState.settled fallback).activeSlot
        Engine.propagate (← Engine.writeState (.settled fallback))
        return active)
      return EngineReply.slot active : Engine EngineReply) = _
    rw [settled_activeSlot]
    exact writes (fun _ => rfl) rfl
  | _ => exact writes (fun _ => rfl) rfl

theorem program_journaled (signer : SignatureScheme len) {call : EngineCall len} {decided}
    (moves : transition call = some decided) : ∃ failing, call.program signer = journaled failing decided := by
  cases call with
  | state => cases moves
  | stage => cases moves
  | recover => exact ⟨id, recover_journaled signer moves⟩
  | promote =>
    cases moves
    refine ⟨fun _ => .storage, reads (fun _ => rfl) ?_⟩
    intro state
    cases state with
    | pending candidate =>
      change (do
        let active ← (do
          let fallback ← Engine.checked (checkedSub 1 candidate)
          Engine.propagate ((← Engine.writeState (.testing candidate fallback)).mapError fun _ => OtaError.storage)
          return candidate)
        return EngineReply.slot active : Engine EngineReply) = _
      simp only [promoted, promotion]
      cases checkedSub 1 candidate with
      | none => rfl
      | some fallback => exact writes (fun _ => rfl) rfl
    | _ => rfl
  | commit =>
    cases moves
    refine ⟨fun _ => .storage, reads (fun _ => rfl) ?_⟩
    intro state
    cases state with
    | testing => exact writes (fun _ => rfl) rfl
    | _ => rfl
  | rollback =>
    cases moves
    refine ⟨fun _ => .storage, reads (fun _ => rfl) ?_⟩
    intro state
    cases state with
    | testing => exact writes (fun _ => rfl) rfl
    | _ => rfl

/-- The call did not return a value: it failed, or the power went off. -/
def Unfinished {ε α : Type} (result : Option (Except ε α)) : Prop := ∀ value, result ≠ some (.ok value)

theorem Unfinished.lost {ε α : Type} {result : Option (Except ε α)} (lost : result = none) : Unfinished result := by
  intro value finished
  cases lost.symm.trans finished

theorem Unfinished.error {ε α : Type} (error : ε) : Unfinished (some (.error error) : Option (Except ε α)) := by
  intro value finished
  cases finished

section
variable {α : Type} {storage after : MemStorage capacity} {plan : List Fault} {result : Option α}

private theorem run_slotCapacity {next : (StorageCall.slotCapacity).Reply → Program StorageCall StorageCall.Reply α}
    (ran : (MemStorage.device capacity).run (.request .slotCapacity next) plan storage = (result, after)) :
    (result = none ∧ after = storage) ∨
      ((∀ reached, plan.headD .none ≠ .cut reached) ∧
        (MemStorage.device capacity).run (next capacity) plan.tail storage = (result, after)) := by
  rcases Device.run_request ran with ⟨lost, performed⟩ | ⟨reply, middle, performed, ran⟩
  all_goals simp only [MemStorage.device, MemStorage.perform] at performed
  · split at performed <;> cases performed
    exact .inl ⟨lost, rfl⟩
  · split at performed <;> cases performed
    next powered => exact .inr ⟨powered, ran⟩

private theorem run_readState {next : (StorageCall.readState).Reply → Program StorageCall StorageCall.Reply α}
    (ran : (MemStorage.device capacity).run (.request .readState next) plan storage = (result, after)) :
    (result = none ∧ after = storage) ∨
    (∃ error, (MemStorage.device capacity).run (next (.error error)) plan.tail storage = (result, after)) ∨
    (MemStorage.device capacity).run (next (.ok storage.state)) plan.tail storage = (result, after) := by
  rcases Device.run_request ran with ⟨lost, performed⟩ | ⟨reply, middle, performed, ran⟩
  all_goals simp only [MemStorage.device, MemStorage.perform] at performed
  · exact .inl ⟨lost, (congrArg Prod.snd performed).symm⟩
  · unfold Fault.answer at performed
    split at performed <;> cases performed
    · exact .inr (.inr ran)
    · exact .inr (.inl ⟨_, ran⟩)

private theorem run_writeState {state : SlotState}
    {next : (StorageCall.writeState state).Reply → Program StorageCall StorageCall.Reply α}
    (ran : (MemStorage.device capacity).run (.request (.writeState state) next) plan storage = (result, after)) :
    (result = none ∧ (after = storage ∨ after = { storage with state })) ∨
    (∃ error, (MemStorage.device capacity).run (next (.error error)) plan.tail storage = (result, after)) ∨
    (MemStorage.device capacity).run (next (.ok ())) plan.tail { storage with state } = (result, after) := by
  rcases Device.run_request ran with ⟨lost, performed⟩ | ⟨reply, middle, performed, ran⟩
  all_goals simp only [MemStorage.device, MemStorage.perform] at performed
  · split at performed <;> cases performed
    · exact .inl ⟨lost, .inl rfl⟩
    · exact .inl ⟨lost, .inr rfl⟩
  · split at performed <;> cases performed
    · exact .inr (.inr ran)
    · exact .inr (.inl ⟨_, ran⟩)

/-- A slot write is refused, or writes as many bytes as its fault lets through. -/
private theorem run_writeSlot {slot : UInt8} {data : List UInt8}
    {next : (StorageCall.writeSlot slot 0 data).Reply → Program StorageCall StorageCall.Reply α}
    (ran : (MemStorage.device capacity).run (.request (.writeSlot slot 0 data) next) plan storage = (result, after)) :
    (result = none ∧ after = storage) ∨
    (∃ error, (MemStorage.device capacity).run (next (.error error)) plan.tail storage = (result, after)) ∨
    ∃ written, storage.writeSlot slot 0 data ((plan.headD .none).reach data.length) = .ok written ∧
      ((result = none ∧ after = written) ∨
      (∃ error, (MemStorage.device capacity).run (next (.error error)) plan.tail written = (result, after)) ∨
      (plan.headD .none = .none ∧
        (MemStorage.device capacity).run (next (.ok ())) plan.tail written = (result, after))) := by
  rcases Device.run_request ran with ⟨lost, performed⟩ | ⟨reply, middle, performed, ran⟩
  all_goals
    simp only [MemStorage.device, MemStorage.perform] at performed
    split at performed
  next => exact .inl ⟨lost, (congrArg Prod.snd performed).symm⟩
  next written stored => exact .inr (.inr ⟨written, stored, .inl ⟨lost, (congrArg Prod.snd performed).symm⟩⟩)
  next error refused =>
    unfold Fault.answer at performed
    split at performed <;> cases performed
    · exact .inr (.inl ⟨_, ran⟩)
    · exact .inr (.inl ⟨_, ran⟩)
  next written stored =>
    refine .inr (.inr ⟨written, stored, .inr ?_⟩)
    cases fault : plan.headD Fault.none with
    | none =>
      rw [fault] at performed
      cases performed
      exact .inr ⟨rfl, ran⟩
    | fail reached =>
      rw [fault] at performed
      cases performed
      exact .inl ⟨_, ran⟩
    | cut reached =>
      rw [fault] at performed
      cases performed

private theorem run_journaled {failing decided} {result}
    (ran : (MemStorage.device capacity).run (journaled failing decided) plan storage = (result, after)) :
    (after = storage ∧ Unfinished result) ∨
    ∃ slot next, decided storage.state = .ok (slot, next) ∧ after = { storage with state := next } ∧
      (result = none ∨ result = some (.ok (.slot slot))) := by
  rcases run_readState ran with ⟨lost, same⟩ | ⟨error, ran⟩ | ran
  · exact .inl ⟨same, Unfinished.lost lost⟩
  · cases ran
    exact .inl ⟨rfl, Unfinished.error _⟩
  · dsimp only at ran
    split at ran
    next failure decision =>
      cases ran
      exact .inl ⟨rfl, Unfinished.error _⟩
    next slot next decision =>
      rcases run_writeState ran with ⟨lost, same | written⟩ | ⟨error, ran⟩ | ran
      · exact .inl ⟨same, Unfinished.lost lost⟩
      · exact .inr ⟨slot, next, decision, written, .inl lost⟩
      · cases ran
        exact .inl ⟨rfl, Unfinished.error _⟩
      · cases ran
        exact .inr ⟨slot, next, decision, rfl, .inr rfl⟩

end

/-- The fault that the slot write of a stage call meets. It is the second storage
call; if the power goes off in the first, no byte is written. -/
def slotWriteFault (input : EngineInput len) : Fault :=
  match input.plan.headD .none with
  | .cut _ => .cut 0
  | _ => input.plan.tail.headD .none

private theorem slotWriteFault_powered {call : EngineCall len} {plan : List Fault}
    (powered : ∀ reached, plan.headD .none ≠ .cut reached) : slotWriteFault ⟨call, plan⟩ = plan.tail.headD .none := by
  unfold slotWriteFault
  split
  next cut => exact absurd cut (powered _)
  next => rfl

/-- Everything an engine call can do. -/
inductive Effect (signer : SignatureScheme len) (before : MemStorage capacity) (input : EngineInput len) :
    Option (Except OtaError EngineReply) → MemStorage capacity → Prop where
  | idle {output} (unfinished : Unfinished output) : Effect signer before input output before
  | read {output} (called : input.call = .state)
      (answer : output = none ∨ output = some (.ok (.state before.state))) : Effect signer before input output before
  | moved {decided slot next output} (moves : transition input.call = some decided)
      (decision : decided before.state = .ok (slot, next))
      (answer : output = none ∨ output = some (.ok (.slot slot))) :
      Effect signer before input output { before with state := next }
  | torn {package payload signature written output} (called : input.call = .stage package payload signature)
      (accepted : Accepts signer capacity package payload signature)
      (stored : before.writeSlot package.slot 0 payload ((slotWriteFault input).reach payload.length) = .ok written)
      (unfinished : Unfinished output) : Effect signer before input output written
  | staged {package payload signature written output} (called : input.call = .stage package payload signature)
      (accepted : Accepts signer capacity package payload signature)
      (stored : before.writeSlot package.slot 0 payload payload.length = .ok written)
      (answer : output = none ∨ output = some (.ok .done)) :
      Effect signer before input output { written with state := .pending package.slot }

private theorem stage_cases {signer : SignatureScheme len} {before after : MemStorage capacity}
    {package : UpdatePackage} {payload : List UInt8} {signature : Buffer UInt8 len} {plan : List Fault} {result}
    (ran : (MemStorage.device capacity).run ((EngineCall.stage package payload signature).program signer) plan before =
      (result, after)) :
    (after = before ∧ Unfinished result) ∨
    (Accepts signer capacity package payload signature ∧
      ∃ written, before.writeSlot package.slot 0 payload
          ((slotWriteFault ⟨.stage package payload signature, plan⟩).reach payload.length) = .ok written ∧
        ((after = written ∧ Unfinished result) ∨
          (slotWriteFault ⟨.stage package payload signature, plan⟩ = .none ∧
            after = { written with state := .pending package.slot } ∧ (result = none ∨ result = some (.ok .done))))) := by
  simp only [EngineCall.program, Engine.stage] at ran
  split at ran
  next =>
    cases ran
    exact .inl ⟨rfl, Unfinished.error _⟩
  next length =>
    rcases run_slotCapacity ran with ⟨lost, same⟩ | ⟨powered, ran⟩
    · exact .inl ⟨same, Unfinished.lost lost⟩
    · rw [slotWriteFault_powered powered]
      simp only [Program.bind, ExceptT.bindCont] at ran
      split at ran
      next =>
        cases ran
        exact .inl ⟨rfl, Unfinished.error _⟩
      next room =>
        have fits : payload.length ≤ capacity ∧ payload.length ≤ otaMaxPayload := by omega
        rw [signedBytes_eq package fits.2] at ran
        change (MemStorage.device capacity).run (Program.bind (ite _ _ _) _) _ _ = _ at ran
        split at ran
        next =>
          cases ran
          exact .inl ⟨rfl, Unfinished.error _⟩
        next verified =>
          have accepted : Accepts signer capacity package payload signature :=
            ⟨Classical.not_not.mp length, fits, Classical.not_not.mp verified⟩
          rcases run_writeSlot ran with ⟨lost, same⟩ | ⟨error, ran⟩ | ⟨written, stored, outcome⟩
          · exact .inl ⟨same, Unfinished.lost lost⟩
          · cases ran
            exact .inl ⟨rfl, Unfinished.error _⟩
          · refine .inr ⟨accepted, written, stored, ?_⟩
            rcases outcome with ⟨lost, same⟩ | ⟨error, ran⟩ | ⟨whole, ran⟩
            · exact .inl ⟨same, Unfinished.lost lost⟩
            · cases ran
              exact .inl ⟨rfl, Unfinished.error _⟩
            · rcases run_writeState ran with ⟨lost, same | moved⟩ | ⟨error, ran⟩ | ran
              · exact .inl ⟨same, Unfinished.lost lost⟩
              · exact .inr ⟨whole, moved, .inl lost⟩
              · cases ran
                exact .inl ⟨rfl, Unfinished.error _⟩
              · cases ran
                exact .inr ⟨whole, rfl, .inr rfl⟩

private theorem engine_run {signer : SignatureScheme len} {before after : MemStorage capacity} {input : EngineInput len}
    {output} (called : (engine signer capacity).step before input = some (output, after)) :
    ∃ result, (MemStorage.device capacity).run (input.call.program signer) input.plan before = (result, after) ∧
      ((result = none ∧ output = none) ∨
      (∃ reply, result = some (.ok reply) ∧ output = some (.ok reply)) ∨
      ∃ error, result = some (.error (.error error)) ∧ output = some (.error error)) := by
  simp only [engine] at called
  split at called
  next ran =>
    cases called
    exact ⟨_, ran, .inl ⟨rfl, rfl⟩⟩
  next ran =>
    cases called
    exact ⟨_, ran, .inr (.inl ⟨_, rfl, rfl⟩)⟩
  next ran =>
    cases called
    exact ⟨_, ran, .inr (.inr ⟨_, rfl, rfl⟩)⟩
  next => cases called

theorem engine_cases {signer : SignatureScheme len} {before after : MemStorage capacity} {input : EngineInput len}
    {output} (called : (engine signer capacity).step before input = some (output, after)) :
    Effect signer before input output after := by
  obtain ⟨result, ran, ends⟩ := engine_run called
  have unfinished (lacks : Unfinished result) : Unfinished output := by
    rcases ends with ⟨_, rfl⟩ | ⟨reply, finished, _⟩ | ⟨error, _, rfl⟩
    · exact Unfinished.lost rfl
    · exact absurd finished (lacks reply)
    · exact Unfinished.error error
  have answers (reply : EngineReply) (answer : result = none ∨ result = some (.ok reply)) :
      output = none ∨ output = some (.ok reply) := by
    rcases ends with ⟨_, lost⟩ | ⟨given, finished, returned⟩ | ⟨error, failed, _⟩
    · exact .inl lost
    · rcases answer with lost | answer
      · cases lost.symm.trans finished
      · cases answer.symm.trans finished
        exact .inr returned
    · rcases answer with lost | answer
      · cases lost.symm.trans failed
      · cases answer.symm.trans failed
  obtain ⟨call, plan⟩ := input
  cases moves : transition call with
  | some decided =>
    obtain ⟨failing, journaled⟩ := program_journaled signer moves
    rw [journaled] at ran
    rcases run_journaled ran with ⟨rfl, lacks⟩ | ⟨slot, next, decision, rfl, answer⟩
    · exact .idle (unfinished lacks)
    · exact .moved moves decision (answers _ answer)
  | none =>
    cases call with
    | state =>
      rcases run_readState ran with ⟨lost, rfl⟩ | ⟨error, ran⟩ | ran
      · exact .idle (unfinished (.lost lost))
      · cases ran
        exact .idle (unfinished (.error _))
      · cases ran
        exact .read rfl (answers _ (.inr rfl))
    | stage package payload signature =>
      rcases stage_cases ran with ⟨rfl, lacks⟩ | ⟨accepted, written, stored, outcome⟩
      · exact .idle (unfinished lacks)
      · rcases outcome with ⟨rfl, lacks⟩ | ⟨whole, rfl, answer⟩
        · exact .torn rfl accepted stored (unfinished lacks)
        · rw [whole] at stored
          exact .staged rfl accepted stored (answers _ answer)
    | _ => cases moves

/-- What a slot write does: it changes the bytes of its own slot only. -/
structure SlotWrite (before written : MemStorage capacity) (slot : UInt8) (offset : Nat) (data : List UInt8) : Prop where
  named : slot.toNat < 2
  state : written.state = before.state
  bytes : written.image slot = overwrite (before.image slot) offset data
  others : ∀ other, other ≠ slot → written.image other = before.image other

theorem writeSlot_effect {before written : MemStorage capacity} {slot : UInt8} {offset count : Nat} {data : List UInt8}
    (stored : before.writeSlot slot offset data count = .ok written) :
    SlotWrite before written slot offset (data.take count) := by
  unfold MemStorage.writeSlot at stored
  split at stored
  next => cases stored
  next s held =>
    split at stored
    next fits =>
      cases stored
      have inside : slot.toNat < before.slots.elements.length := (List.getElem?_eq_some_iff.mp held).choose
      constructor
      · exact before.slots.sized ▸ inside
      · rfl
      · simp only [MemStorage.image, Buffer.set, List.getElem?_set_self inside, held, Option.map_some, Option.getD_some,
          Buffer.write]
      · intro other different
        have apart : slot.toNat ≠ other.toNat := fun same => different (UInt8.toNat_inj.mp same.symm)
        simp only [MemStorage.image, Buffer.set, List.getElem?_set_ne apart]
    next => cases stored

theorem writeSlot_accepts (before : MemStorage capacity) {slot : UInt8} {data : List UInt8}
    (named : slot.toNat < 2) (fits : data.length ≤ capacity) (count : Nat) :
    ∃ written, before.writeSlot slot 0 data count = .ok written := by
  have inside : slot.toNat < before.slots.elements.length := before.slots.sized.symm ▸ named
  have room : 0 + data.length ≤ capacity := (Nat.zero_add _).symm ▸ fits
  simp only [MemStorage.writeSlot, List.getElem?_eq_getElem inside, dif_pos room]
  exact ⟨_, rfl⟩

theorem moves_perform (signer : SignatureScheme len) (before : MemStorage capacity) {call : EngineCall len}
    {decided slot next} (moves : transition call = some decided) (decision : decided before.state = .ok (slot, next)) :
    (engine signer capacity).step before ⟨call, []⟩ = some (some (.ok (.slot slot)), { before with state := next }) := by
  obtain ⟨failing, program⟩ := program_journaled signer moves
  have read : (MemStorage.device capacity).perform .none before .readState = (some (.ok before.state), before) := rfl
  have written : (MemStorage.device capacity).perform .none before (.writeState next) =
      (some (.ok ()), { before with state := next }) := rfl
  have ran : (MemStorage.device capacity).run (call.program signer) [] before =
      (some (.ok (.slot slot)), { before with state := next }) := by
    rw [program]
    apply (Device.run_reply [] read).trans
    simp only [decision]
    apply (Device.run_reply [] written).trans
    rfl
  simp only [engine, ran]

private def stageWrites (package : UpdatePackage) (payload : List UInt8) : Engine Unit := do
  Engine.propagate ((← Engine.writeSlot package.slot 0 payload).mapError fun _ => .writeFailed)
  Engine.propagate ((← Engine.writeState (.pending package.slot)).mapError fun _ => .storage)

private theorem stage_begins {signer : SignatureScheme len} (before : MemStorage capacity) {package : UpdatePackage}
    {payload : List UInt8} {signature : Buffer UInt8 len} (accepted : Accepts signer capacity package payload signature)
    {plan : List Fault} (quiet : plan.headD .none = .none) :
    (MemStorage.device capacity).run ((EngineCall.stage package payload signature).program signer) plan before =
      (MemStorage.device capacity).run
        (do
          stageWrites package payload
          return EngineReply.done : Engine EngineReply)
        plan.tail before := by
  have asked : (MemStorage.device capacity).perform (plan.headD .none) before .slotCapacity = (some capacity, before) := by
    rw [quiet]
    rfl
  have room : ¬ (payload.length > capacity ∨ payload.length > otaMaxPayload) := by
    have := accepted.room
    omega
  simp only [EngineCall.program, Engine.stage, if_neg (Classical.not_not.mpr accepted.length)]
  apply (Device.run_reply plan asked).trans
  simp only [Program.bind, ExceptT.bindCont, if_neg room, signedBytes_eq package accepted.room.2]
  change (MemStorage.device capacity).run (Program.bind (ite _ _ _) _) _ _ = _
  rw [if_neg (Classical.not_not.mpr accepted.verified)]
  rfl

theorem stage_performs {signer : SignatureScheme len} {before written : MemStorage capacity} {package : UpdatePackage}
    {payload : List UInt8} {signature : Buffer UInt8 len} (accepted : Accepts signer capacity package payload signature)
    (stored : before.writeSlot package.slot 0 payload payload.length = .ok written) :
    (engine signer capacity).step before ⟨.stage package payload signature, []⟩ =
      some (some (.ok .done), { written with state := .pending package.slot }) := by
  have wrote : (MemStorage.device capacity).perform .none before (.writeSlot package.slot 0 payload) =
      (some (.ok ()), written) := by
    simp only [MemStorage.device, MemStorage.perform, Fault.reach, stored]
    rfl
  have ran : (MemStorage.device capacity).run ((EngineCall.stage package payload signature).program signer) [] before =
      (some (.ok .done), { written with state := .pending package.slot }) := by
    rw [stage_begins before accepted rfl]
    apply (Device.run_reply [] wrote).trans
    rfl
  simp only [engine, ran]

theorem stage_cut {signer : SignatureScheme len} {before written : MemStorage capacity} {package : UpdatePackage}
    {payload : List UInt8} {signature : Buffer UInt8 len} {count : Nat}
    (accepted : Accepts signer capacity package payload signature)
    (stored : before.writeSlot package.slot 0 payload count = .ok written) :
    (engine signer capacity).step before ⟨.stage package payload signature, [.none, .cut count]⟩ =
      some (none, written) := by
  have wrote : (MemStorage.device capacity).perform (.cut count) before (.writeSlot package.slot 0 payload) =
      (none, written) := by
    simp only [MemStorage.device, MemStorage.perform, Fault.reach, stored]
    rfl
  have ran : (MemStorage.device capacity).run ((EngineCall.stage package payload signature).program signer)
      [.none, .cut count] before = (none, written) := by
    rw [stage_begins before accepted rfl]
    exact Device.run_lost [Fault.cut count] wrote
  simp only [engine, ran]

theorem stageSigned_performs (signer : DemoSigner) {before written : MemStorage capacity} (package : UpdatePackage)
    {payload : List UInt8} (length : payload.length = package.payloadLen.toNat)
    (room : payload.length ≤ capacity ∧ payload.length ≤ otaMaxPayload)
    (stored : before.writeSlot package.slot 0 payload payload.length = .ok written) :
    (engine (signer.scheme len) capacity).step before ⟨stageSigned signer len package payload, []⟩ =
      some (some (.ok .done), { written with state := .pending package.slot }) :=
  stage_performs (accepts_signed signer length room) stored

theorem stageSigned_cut (signer : DemoSigner) {before written : MemStorage capacity} (package : UpdatePackage)
    {payload : List UInt8} (count : Nat) (length : payload.length = package.payloadLen.toNat)
    (room : payload.length ≤ capacity ∧ payload.length ≤ otaMaxPayload)
    (stored : before.writeSlot package.slot 0 payload count = .ok written) :
    (engine (signer.scheme len) capacity).step before ⟨stageSigned signer len package payload, [.none, .cut count]⟩ =
      some (none, written) :=
  stage_cut (accepts_signed signer length room) stored

end TptChassis.Proofs.OtaEffects
