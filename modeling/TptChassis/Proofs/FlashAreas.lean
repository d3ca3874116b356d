import TptChassis.OtaFlash

/-! Flash areas are opened, used and closed in turn. Each method of the storage is
first written out as the C functions it calls. -/

namespace TptChassis.Proofs.FlashAreas
open Ota Slices Words

/-- The area that is open, and the capacity asked for last. -/
structure FlashUse where
  area : Option FlashArea
  capacity : Nat
deriving DecidableEq, Repr

/-- One area is open at a time, and while it is, it is written or read within the
capacity or closed. An open call that fails opens nothing. -/
def bracketing : Protocol FlashUse FlashCall FlashCall.Reply where
  initial := ⟨none, 0⟩
  allows use
    | .tptFlashWrite area off src => use.area = some area ∧ off + src.length ≤ use.capacity
    | .tptFlashRead area off dst => use.area = some area ∧ off + dst.length ≤ use.capacity
    | .tptFlashClose area => use.area = some area
    | _ => use.area = none
  next use
    | .tptFlashOpen _, (rc, area) => if rc = 0 ∧ area ≠ nullArea then { use with area := some area } else use
    | .tptFlashClose _, _ => { use with area := none }
    | .tptSlotCapacity, capacity => { use with capacity }
    | _, _ => use

def Idle (use : FlashUse) : Prop := use.area = none

variable {target : Target} {α : Type}

/-- `write_slot` and `read_slot` once the sum is computed. -/
def bounded (last : Option Nat) (capacity : Nat) (beyond : α) (rest : Ffi (Option α)) : Ffi (Option α) :=
  match last with
  | none => .pure none
  | some last => if last > capacity then .pure (some beyond) else rest

/-- The result of a method by the result code. -/
def coded (error : OtaError) (rc : Zerr) : Except OtaError Unit := if rc = 0 then .ok () else .error error

/-- The journal by the result code and the two bytes. -/
def loaded (rc : Zerr) (kind value : UInt8) : Except OtaError SlotState :=
  if rc = 0 then (SlotState.decode kind value).elim (.error .storage) .ok else .error .storage

theorem writeSlot_calls (slot : UInt8) (offset : Nat) (data : List UInt8) :
    ZephyrFlashStorage.perform target (.writeSlot slot offset data) =
      .request .tptSlotCapacity fun (capacity : Nat) => bounded (target.add offset data.length) capacity (.error .storage)
        ((Ffi.withFlashArea slot fun area => Ffi.ask (.tptFlashWrite area offset data)).bind fun (written : Option Zerr) =>
          .pure (some (written.elim (.error .writeFailed) (coded .writeFailed)))) := by
  apply congrArg (Program.request FlashCall.tptSlotCapacity)
  funext (capacity : Nat)
  simp only [bounded]
  cases target.add offset data.length with
  | none => rfl
  | some last =>
    simp only [Program.bind, ExceptT.bindCont]
    change Program.bind (ite (last > capacity) _ _) _ = _
    split
    · rfl
    · change Program.bind (Program.bind (Program.bind _ _) _) _ = _
      simp only [Program.bind_assoc]
      apply congrArg (Program.bind _)
      funext (written : Option Zerr)
      cases written with
      | none => rfl
      | some rc =>
        change Program.bind (ite (rc = 0) _ _) _ = Program.pure (some (coded _ rc))
        by_cases success : rc = 0
        · rw [coded, if_pos success, if_pos success]
          rfl
        · rw [coded, if_neg success, if_neg success]
          rfl

theorem readSlot_calls (slot : UInt8) (offset : Nat) (buf : List UInt8) :
    ZephyrFlashStorage.performMethod target (.readSlot slot offset buf) =
      .request .tptSlotCapacity fun (capacity : Nat) => bounded (target.add offset buf.length) capacity (.error .storage, buf)
        ((Ffi.withFlashArea slot fun area => Ffi.ask (.tptFlashRead area offset buf)).bind
          fun (read : Option (Zerr × Buffer UInt8 buf.length)) =>
            .pure (some (read.elim (.error .storage, buf) fun read => (coded .storage read.1, read.2.elements)))) := by
  apply congrArg (Program.request FlashCall.tptSlotCapacity)
  funext (capacity : Nat)
  simp only [bounded]
  cases target.add offset buf.length with
  | none => rfl
  | some last =>
    simp only [Program.bind, ExceptT.bindCont]
    change Program.bind (ite (last > capacity) _ _) _ = _
    split
    · rfl
    · change Program.bind (Program.bind (Program.bind _ _) _) _ = _
      simp only [Program.bind_assoc]
      apply congrArg (Program.bind _)
      funext (read : Option (Zerr × Buffer UInt8 buf.length))
      cases read with
      | none => rfl
      | some read => rfl

theorem writeState_calls (state : SlotState) :
    ZephyrFlashStorage.perform target (.writeState state) =
      match state.encode with
      | none => .pure none
      | some bytes => .request (.tptStateWrite bytes) fun (rc : Zerr) => .pure (some (coded .storage rc)) := by
  simp only [ZephyrFlashStorage.perform, ZephyrFlashStorage.writeState]
  cases state.encode with
  | none => rfl
  | some bytes =>
    apply congrArg (Program.request (FlashCall.tptStateWrite bytes))
    funext (rc : Zerr)
    change Program.bind (Program.bind (Program.pure (Except.ok (ite (rc = 0) _ _))) (ExceptT.bindCont _)) _ = _
    by_cases success : rc = 0
    · rw [coded, if_pos success, if_pos success]
      rfl
    · rw [coded, if_neg success, if_neg success]
      rfl

theorem readState_calls :
    ZephyrFlashStorage.perform target .readState = .request .tptStateRead fun (read : Zerr × UInt8 × UInt8) =>
      .pure (some (loaded read.1 read.2.1 read.2.2)) := by
  apply congrArg (Program.request FlashCall.tptStateRead)
  funext (read : Zerr × UInt8 × UInt8)
  obtain ⟨rc, kind, value⟩ := read
  change Program.bind (Program.bind (Program.pure (Except.ok (ite (rc = 0) _ _, kind, value))) (ExceptT.bindCont _)) _ =
    Program.pure (some (loaded rc kind value))
  by_cases success : rc = 0
  · rw [loaded, if_pos success, if_pos success]
    simp only [Program.bind, ExceptT.bindCont]
    cases SlotState.decode kind value with
    | none => rfl
    | some state => rfl
  · rw [loaded, if_neg success, if_neg success]
    rfl

theorem opening {use : FlashUse} (idle : Idle use) (id : UInt8) : bracketing.allows use (.tptFlashOpen id) = true :=
  decide_eq_true idle

theorem closing (area : FlashArea) (capacity : Nat) :
    bracketing.allows ⟨some area, capacity⟩ (.tptFlashClose area) = true :=
  decide_eq_true (show some area = some area from rfl)

theorem asking {use : FlashUse} (idle : Idle use) : bracketing.allows use .tptSlotCapacity = true :=
  decide_eq_true idle

/-- What is done to an open area leaves none open. -/
theorem withFlashArea_keeps (id : UInt8) {f : FlashArea → Ffi α} {capacity : Nat}
    (uses : ∀ area, (f area).Keeps bracketing (· = ⟨some area, capacity⟩) ⟨some area, capacity⟩) :
    (Ffi.withFlashArea id f).Keeps bracketing Idle ⟨none, capacity⟩ := by
  apply Program.Keeps.request (opening (show Idle ⟨none, capacity⟩ from rfl) id)
  intro (opened : Zerr × FlashArea)
  obtain ⟨rc, area⟩ := opened
  change Program.Keeps bracketing Idle (ite (rc = 0 ∧ area ≠ nullArea) _ _) (ite (rc ≠ 0 ∨ area = nullArea) _ _)
  by_cases success : rc = 0 ∧ area ≠ nullArea
  · have failed : ¬ (rc ≠ 0 ∨ area = nullArea) := by
      rintro (code | null)
      · exact code success.1
      · exact success.2 null
    rw [if_pos success, if_neg failed]
    apply Program.Keeps.bind (uses area)
    intro r use same
    subst same
    exact .request (closing area capacity) fun _ => .pure rfl
  · have failed : rc ≠ 0 ∨ area = nullArea := by
      by_cases code : rc = 0
      · exact .inr (Classical.not_not.mp fun valid => success ⟨code, valid⟩)
      · exact .inl code
    rw [if_neg success, if_pos failed]
    exact .pure rfl

/-- A method that opens an area for a range, behind the check of its bounds. -/
theorem bounded_keeps {β : Type} (id : UInt8) {f : FlashArea → Ffi β} {first second capacity : Nat} {beyond : α}
    (answer : Option β → Option α)
    (uses : first + second ≤ capacity → ∀ area, (f area).Keeps bracketing (· = ⟨some area, capacity⟩) ⟨some area, capacity⟩) :
    (bounded (target.add first second) capacity beyond
      ((Ffi.withFlashArea id f).bind fun r => .pure (answer r))).Keeps bracketing Idle ⟨none, capacity⟩ := by
  cases added : target.add first second with
  | none => exact .pure rfl
  | some sum =>
    rw [bounded]
    split
    next => exact .pure rfl
    next within =>
      have fits : first + second ≤ capacity := by
        rw [Target.add] at added
        split at added
        · exact Option.some.inj added ▸ Nat.not_lt.mp within
        · cases added
      exact .bind (withFlashArea_keeps id (uses fits)) fun _ _ idle => .pure idle

theorem perform_keeps (call : StorageCall) {use : FlashUse} (idle : Idle use) :
    (ZephyrFlashStorage.perform target call).Keeps bracketing Idle use := by
  cases call with
  | slotCapacity => exact .request (asking idle) fun _ => .pure idle
  | readState =>
    rw [readState_calls]
    exact .request (decide_eq_true idle) fun _ => .pure idle
  | writeState state =>
    rw [writeState_calls]
    cases state.encode with
    | none => exact .pure idle
    | some bytes => exact .request (decide_eq_true idle) fun _ => .pure idle
  | writeSlot slot offset data =>
    rw [writeSlot_calls]
    apply Program.Keeps.request (asking idle)
    intro (capacity : Nat)
    obtain ⟨area, earlier⟩ := use
    cases idle
    have asked : bracketing.next ⟨none, earlier⟩ .tptSlotCapacity capacity = ⟨none, capacity⟩ := rfl
    rw [asked]
    refine bounded_keeps slot _ fun fits area => ?_
    exact .request (decide_eq_true ⟨rfl, fits⟩) fun _ => .pure rfl

theorem performMethod_keeps (method : ZephyrFlashStorage.Method) {use : FlashUse} (idle : Idle use) :
    (ZephyrFlashStorage.performMethod target method).Keeps bracketing Idle use := by
  cases method with
  | engine call => exact perform_keeps call idle
  | readSlot slot offset buf =>
    rw [readSlot_calls]
    apply Program.Keeps.request (asking idle)
    intro (capacity : Nat)
    obtain ⟨area, earlier⟩ := use
    cases idle
    have asked : bracketing.next ⟨none, earlier⟩ .tptSlotCapacity capacity = ⟨none, capacity⟩ := rfl
    rw [asked]
    refine bounded_keeps slot _ fun fits area => ?_
    exact .request (decide_eq_true ⟨rfl, fits⟩) fun _ => .pure rfl

section
variable {φ ε : Type} (flash : Device φ FlashCall FlashCall.Reply ε) (target : Target)

/-- The flash as it is, and an area open in none of the calls. -/
def Watched (state : φ × Option FlashUse) (plain : φ) : Prop :=
  state.1 = plain ∧ ∃ use, state.2 = some use ∧ Idle use

theorem engine_watched {len : Nat} (signer : SignatureScheme len) (input : FlashInput ε len) {state : φ × Option FlashUse}
    {plain : φ} (related : Watched state plain) :
    Machine.Agree Watched ((flashEngine signer target (flash.watched bracketing)).step state input)
      ((flashEngine signer target flash).step plain input) := by
  obtain ⟨state, record⟩ := state
  obtain ⟨rfl, use, rfl, idle⟩ := related
  have keeps := Program.Keeps.under (fun call use => @perform_keeps target call use) (input.call.program signer) idle
  obtain ⟨last, done, ran⟩ := flash.run_watched (show Idle bracketing.initial from rfl) keeps input.plan state
  simp only [flashEngine, ran]
  generalize flash.run ((input.call.program signer).under (ZephyrFlashStorage.perform target)) input.plan state = result
  obtain ⟨reply, after⟩ := result
  have related : Watched (after, some last) after := ⟨rfl, last, rfl, done⟩
  match reply with
  | none => exact .answer none related
  | some none => exact .panic
  | some (some result) =>
    change Machine.Agree Watched (Option.map _ (returned result)) (Option.map _ (returned result))
    cases returned result with
    | none => exact .panic
    | some output => exact .answer (some output) related

/-- Whatever the C functions do, no area is misused. A monitor that knows the area open
and the capacity is never left by a program that calls the methods of the storage, in any
order and with any arguments, nor by the calls of an engine; afterwards no area is open. -/
theorem areas_closed :
    (∀ {α : Type} (program : Program ZephyrFlashStorage.Method ZephyrFlashStorage.Method.Reply α) (plan : List ε) (state : φ),
      ∃ use, Idle use ∧
        (flash.watched bracketing).run (program.under (ZephyrFlashStorage.performMethod target)) plan (state, some ⟨none, 0⟩) =
          ((flash.run (program.under (ZephyrFlashStorage.performMethod target)) plan state).1,
            (flash.run (program.under (ZephyrFlashStorage.performMethod target)) plan state).2, some use)) ∧
    ∀ {len : Nat} (signer : SignatureScheme len) (inputs : List (FlashInput ε len)) (state : φ),
      Machine.Agree Watched
        ((flashEngine signer target (flash.watched bracketing)).run (state, some ⟨none, 0⟩) inputs)
        ((flashEngine signer target flash).run state inputs) := by
  refine ⟨?_, ?_⟩
  · intro α program plan state
    have keeps := Program.Keeps.under (fun call use => @performMethod_keeps target call use) program
      (show Idle ⟨none, 0⟩ from rfl)
    exact flash.run_watched (show Idle bracketing.initial from rfl) keeps plan state
  · intro len signer inputs state
    exact Machine.run_agree inputs (fun input _ _ _ related => engine_watched flash target signer input related) _ _
      ⟨rfl, _, rfl, rfl⟩

end

end TptChassis.Proofs.FlashAreas
