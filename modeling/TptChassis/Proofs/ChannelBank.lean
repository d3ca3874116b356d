import TptChassis.Autosar
import TptChassis.Library.Fields

/-! The simulated port bank is a bank of channels, each with a level of its own. The
words are how it is stored: a write through a mask touches one channel only. -/

namespace TptChassis.Proofs.ChannelBank
open Autosar Slices
open Autonomy (Error)

/-- The levels of all channels that exist. -/
abbrev Bank := Fin 16 → Fin 32 → DioLevel

namespace Bank

def write (bank : Bank) (port : Fin 16) (pin : Fin 32) (level : DioLevel) : Bank :=
  fun other index => if other = port ∧ index = pin then level else bank other index

/-- The word whose bits are the levels of a port. -/
def word (bank : Bank) (port : Fin 16) : UInt32 := .ofBitVec (Bits.gather fun pin => (bank port pin).asBool)

/-- A port that is not there is refused; a pin that is not there panics. -/
def onChannel {α : Type} (channel : DioChannel) (refused : α) (found : Fin 16 → Fin 32 → α) : Checked α :=
  if port : channel.port.toNat < 16 then
    if pin : channel.pin.toNat < 32 then some (found ⟨_, port⟩ ⟨_, pin⟩) else none
  else some refused

def machine : Machine Bank DioCall DioReply where
  step bank call :=
    match call with
    | .read channel =>
      onChannel channel (.level (.error .invalidArgument), bank) fun port pin => (.level (.ok (bank port pin)), bank)
    | .write channel level =>
      onChannel channel (.written (.error .invalidArgument), bank) fun port pin =>
        (.written (.ok ()), bank.write port pin level)
    | .word port => some (.word (if inside : port.toNat < 16 then bank.word ⟨_, inside⟩ else 0), bank)

end Bank

/-- The levels that a port bank stores. -/
def levels (dio : SimDio) : Bank := fun port pin => .fromBool ((dio.ports.get port).toBitVec.getLsbD pin)

theorem asBool_fromBool (value : Bool) : (DioLevel.fromBool value).asBool = value := by cases value <;> rfl

theorem bit_small (channel : DioChannel) : channel.bit < 32 ↔ channel.pin.toNat < 32 := by
  rw [UInt32.lt_iff_toNat_lt, DioChannel.bit, UInt8.toNat_toUInt32]
  rfl

theorem mask_eq {channel : DioChannel} (inside : channel.pin.toNat < 32) :
    channel.mask = some (.ofBitVec (1#32 <<< channel.pin.toNat)) := by
  rw [DioChannel.mask, if_pos ((bit_small channel).mpr inside)]
  have count : (channel.bit.toBitVec % 32#32).toNat = channel.pin.toNat := by
    rw [BitVec.toNat_umod, DioChannel.bit, UInt32.toNat_toBitVec, UInt8.toNat_toUInt32]
    exact Nat.mod_eq_of_lt inside
  apply congrArg some
  apply UInt32.toBitVec_inj.mp
  rw [UInt32.toBitVec_shiftLeft, BitVec.shiftLeft_eq', ← count]
  rfl

theorem mask_panics {channel : DioChannel} (outside : ¬ channel.pin.toNat < 32) : channel.mask = none :=
  if_neg fun small => outside ((bit_small channel).mp small)

theorem masked_level (word : UInt32) (pin : Fin 32) :
    DioLevel.fromBool (word &&& .ofBitVec (1#32 <<< pin.val) ≠ 0) = .fromBool (word.toBitVec.getLsbD pin) := by
  have same : (word &&& .ofBitVec (1#32 <<< pin.val) ≠ 0) ↔ word.toBitVec.getLsbD pin = true := by
    rw [← Bits.masked_iff word.toBitVec pin.isLt, ne_eq, ne_eq, ← UInt32.toBitVec_inj]
    rfl
  by_cases set : word.toBitVec.getLsbD pin = true
  · rw [decide_eq_true (same.mpr set), set]
  · rw [decide_eq_false fun masked => set (same.mp masked), Bool.eq_false_iff.mpr set]

theorem stored_word (word : UInt32) (pin : Fin 32) (level : DioLevel) :
    (if level.asBool then word ||| .ofBitVec (1#32 <<< pin.val) else word &&& ~~~ .ofBitVec (1#32 <<< pin.val)).toBitVec =
      Bits.put word.toBitVec pin level.asBool := by
  cases level <;> rfl

theorem levels_write (dio : SimDio) (port : Fin 16) (pin : Fin 32) (level : DioLevel) {word : UInt32}
    (stored : word.toBitVec = Bits.put (dio.ports.get port).toBitVec pin level.asBool) :
    levels { dio with ports := dio.ports.set port word } = (levels dio).write port pin level := by
  funext other index
  unfold levels Bank.write
  by_cases here : other = port
  · rw [here, Buffer.get_set_self, stored, Bits.getLsbD_put _ _ index.isLt]
    by_cases same : index = pin
    · rw [if_pos (congrArg Fin.val same), if_pos ⟨rfl, same⟩]
      cases level <;> rfl
    · rw [if_neg fun equal => same (Fin.ext equal), if_neg fun both => same both.2]
  · rw [Buffer.get_set_other _ _ here, if_neg fun both => here both.1]

theorem levels_word (dio : SimDio) (port : Fin 16) : (levels dio).word port = dio.ports.get port := by
  apply UInt32.toBitVec_inj.mp
  unfold Bank.word levels
  simp only [asBool_fromBool]
  exact Bits.gather_getLsbD (dio.ports.get port).toBitVec

theorem port_found (dio : SimDio) {port : UInt8} (inside : port.toNat < 16) :
    dio.ports.elements[port.toNat]? = some (dio.ports.get ⟨_, inside⟩) :=
  dio.ports.get?_eq ⟨_, inside⟩

theorem port_missing (dio : SimDio) {port : UInt8} (outside : ¬ port.toNat < 16) : dio.ports.elements[port.toNat]? = none :=
  List.getElem?_eq_none (dio.ports.sized.symm ▸ Nat.le_of_not_lt outside)

theorem step_levels (dio : SimDio) (call : DioCall) :
    (SimDio.machine.step dio call).map (fun result => (result.1, levels result.2)) =
      Bank.machine.step (levels dio) call := by
  cases call with
  | read channel =>
    simp only [SimDio.machine, Bank.machine, DioDriver.readChannel, Bank.onChannel]
    by_cases port : channel.port.toNat < 16
    · rw [dif_pos port, port_found dio port]
      by_cases pin : channel.pin.toNat < 32
      · rw [dif_pos pin, mask_eq pin]
        exact congrArg (fun level => some (DioReply.level (.ok level), levels dio)) (masked_level _ ⟨_, pin⟩)
      · simp only [dif_neg pin, mask_panics pin]
        rfl
    · rw [dif_neg port, port_missing dio port]
      rfl
  | write channel level =>
    simp only [SimDio.machine, Bank.machine, DioDriver.writeChannel, Bank.onChannel]
    by_cases port : channel.port.toNat < 16
    · rw [dif_pos port, port_found dio port]
      by_cases pin : channel.pin.toNat < 32
      · rw [dif_pos pin, mask_eq pin]
        exact congrArg (fun bank => some (DioReply.written (.ok ()), bank))
          (levels_write dio ⟨_, port⟩ ⟨_, pin⟩ level (stored_word _ ⟨_, pin⟩ level))
      · simp only [dif_neg pin, mask_panics pin]
        rfl
    · rw [dif_neg port, port_missing dio port]
      rfl
  | word port =>
    simp only [SimDio.machine, Bank.machine, SimDio.portWord]
    by_cases inside : port.toNat < 16
    · rw [dif_pos inside, port_found dio inside, levels_word]
      rfl
    · rw [dif_neg inside, port_missing dio inside]
      rfl

/-- Whatever is called, the port bank answers as a bank of channels does, and panics
where that has no such pin; at the start every channel is low. -/
theorem port_bank_is_channels (dio : SimDio) (calls : List DioCall) :
    (SimDio.machine.run dio calls).map (fun result => (result.1, levels result.2)) = Bank.machine.run (levels dio) calls ∧
      levels SimDio.new = fun _ _ => .low := by
  refine ⟨?_, ?_⟩
  · have same := Machine.run_view levels id step_levels dio calls
    rwa [List.map_id] at same
  · funext port pin
    have zero : SimDio.new.ports.get port = 0 := List.getElem_replicate _
    rw [levels, zero]
    exact congrArg DioLevel.fromBool BitVec.getLsbD_zero

end TptChassis.Proofs.ChannelBank
