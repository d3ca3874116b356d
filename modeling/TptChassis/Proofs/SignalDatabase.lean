import TptChassis.Cli
import TptChassis.Proofs.SignalLens

/-! Layouts on their way from a signal database to `Signal::new`. The generator
narrows its integers to bytes, writes them out in a constant for each signal, and
leaves it to `Signal::new` to refuse bad ones. -/

namespace TptChassis.Proofs.SignalDatabase
open Cli Autosar SignalLens Slices

/-- The database gives a signal a place inside the payload. -/
def WellPlaced (start length : Int64) : Prop :=
  0 ≤ start.toInt ∧ 1 ≤ length.toInt ∧ length.toInt ≤ 64 ∧ start.toInt + length.toInt ≤ 64

/-- The layout is accepted exactly when it is well placed, and is then the one
of the database. -/
structure Validated (layout : Checked Signal) (start length : Int64) : Prop where
  accepts : (∃ signal, layout = some signal) ↔ WellPlaced start length
  exact : ∀ signal, layout = some signal →
    (signal.startBit.toNat : Int) = start.toInt ∧ (signal.length.toNat : Int) = length.toInt

/-- Narrowing keeps both integers, or leaves no layout that is accepted. -/
def Survives (start length : Int64) : Prop :=
  (0 ≤ start.toInt ∧ start.toInt ≤ 255 ∧ 0 ≤ length.toInt ∧ length.toInt ≤ 255) ∨
    ¬ (1 ≤ length.toInt % 256 ∧ start.toInt % 256 + length.toInt % 256 ≤ 64)

theorem toNat_narrowed (value : Int64) : (value.toUInt64.toUInt8.toNat : Int) = value.toInt % 256 := by
  have unsigned : value.toInt = Int.bmod value.toUInt64.toNat UInt64.size :=
    BitVec.toInt_eq_toNat_bmod value.toBitVec
  rw [UInt64.toNat_toUInt8, unsigned, Int.bmod, UInt64.size]
  omega

theorem layout_generated (name : Option String) (canId : Option Int64) (start length : Int64) :
    (SignalEntry.generate ⟨name, some start, some length, canId⟩).layout =
      Signal.new start.toUInt64.toUInt8 length.toUInt64.toUInt8 :=
  rfl

/-- A generated file with this text somewhere in it. -/
def Emits (file text : String) : Prop := ∃ before behind, file = before ++ text ++ behind

theorem Emits.trans {file part text : String} (emits : Emits file part) (has : Emits part text) : Emits file text := by
  obtain ⟨before, behind, rfl⟩ := emits
  obtain ⟨first, last, rfl⟩ := has
  refine ⟨before ++ first, last ++ behind, ?_⟩
  simp only [String.append_assoc]

theorem code_emitted {signals : List SignalEntry} {s : SignalEntry} (member : s ∈ signals) :
    Emits (cmdSignals signals) s.generate.code := by
  obtain ⟨first, rest, rfl⟩ := List.append_of_mem member
  unfold cmdSignals
  rw [List.map_append, List.map_cons, String.join_append, String.join_cons]
  rw [← String.append_assoc, ← String.append_assoc]
  exact ⟨_, _, rfl⟩

/-- The constant of a signal, up to the layout that it passes on. -/
def declared (s : SignalConst) : String :=
  "pub const " ++ s.name ++ ": Signal = match Signal::new(" ++ toString s.start.toNat ++ ", " ++ toString s.length.toNat ++ ")"

theorem code_declares (s : SignalConst) : Emits s.code (declared s) := by
  have closed : ") \x7b\n    Some(s) => s,\n    None => panic!(\"invalid signal layout for " =
    ")" ++ " \x7b\n    Some(s) => s,\n    None => panic!(\"invalid signal layout for " := rfl
  unfold SignalConst.code declared
  rw [closed]
  refine ⟨"/// `" ++ s.name ++ "`: CAN 0x" ++ upperHex s.canId.toNat ++ ", start bit " ++ toString s.start.toNat ++ ", " ++
      toString s.length.toNat ++ " bits.\n",
    " \x7b\n    Some(s) => s,\n    None => panic!(\"invalid signal layout for " ++ s.name ++ "\"),\n\x7d;\n\n", ?_⟩
  simp only [String.append_assoc]

/-- Every entry of the database has its constant in the generated file. -/
theorem layouts_emitted {signals : List SignalEntry} {s : SignalEntry} (member : s ∈ signals) :
    Emits (cmdSignals signals) (declared s.generate) :=
  (code_emitted member).trans (code_declares s.generate)

/-- For an entry with these integers the generated layout is as it should be
exactly when they survive the narrowing. -/
theorem validated_iff (name : Option String) (canId : Option Int64) (start length : Int64) :
    Validated (SignalEntry.generate ⟨name, some start, some length, canId⟩).layout start length ↔
      Survives start length := by
  rw [layout_generated]
  have first := toNat_narrowed start
  have second := toNat_narrowed length
  by_cases layout : Layout start.toUInt64.toUInt8 length.toUInt64.toUInt8
  · have positive := layout.positive
    have inside := layout.inside
    have accepted := new_layout layout
    constructor
    · intro validated
      have placed := validated.exact _ accepted
      simp only [first, second] at placed
      exact .inl (by omega)
    · intro survives
      have kept : 0 ≤ start.toInt ∧ start.toInt ≤ 255 ∧ 0 ≤ length.toInt ∧ length.toInt ≤ 255 := by
        rcases survives with kept | refused
        · exact kept
        · exact absurd ⟨by omega, by omega⟩ refused
      refine ⟨iff_of_true ⟨_, accepted⟩ (by unfold WellPlaced; omega), ?_⟩
      intro signal given
      cases accepted.symm.trans given
      simp only [first, second]
      omega
  · have refused := new_refuses layout
    have misfit : ¬ (1 ≤ length.toInt % 256 ∧ start.toInt % 256 + length.toInt % 256 ≤ 64) := by
      intro fits
      exact layout ⟨by omega, by omega⟩
    refine iff_of_true ⟨iff_of_false ?_ ?_, ?_⟩ (.inr misfit)
    · intro given
      obtain ⟨signal, accepted⟩ := given
      cases refused.symm.trans accepted
    · unfold WellPlaced
      omega
    · intro signal accepted
      cases refused.symm.trans accepted

/-- A signal that starts at bit 256 is generated at bit 0. -/
theorem start_wrapped :
    ¬ ∀ (name : Option String) (canId : Option Int64) (start length : Int64),
      Validated (SignalEntry.generate ⟨name, some start, some length, canId⟩).layout start length := by
  intro claimed
  obtain ⟨start, _⟩ := (claimed (some "speed") none 256 8).exact ⟨0, 8⟩ rfl
  cases start

end TptChassis.Proofs.SignalDatabase
