import TptChassis.Proofs.AglFiles

/-! The journal of the AGL storage when the power can go off. `write_state` first
truncates the file, so until both bytes are written there is no journal. -/

namespace TptChassis.Proofs.AglCrash
open Ota OtaEffects OtaPrograms AglFiles Slices Words

variable {len capacity : Nat} {target : Target}

abbrev AglStep (len : Nat) := Step Directory (AglInput len) (Option (Except OtaError EngineReply))

/-- The power goes off when the journal file is truncated and not yet whole. -/
def Tearing : Option (FileCall × FileFault) → Prop
  | some (.fileCreate .state, .cut (_ + 1)) => True
  | some (.writeAll .state data, .cut reached) => reached < data.length
  | _ => False

def Elsewhere : FileCall → Prop
  | .fileCreate path => path ≠ .state
  | .writeAll path _ => path ≠ .state
  | _ => True

private theorem elsewhere_iff (call : FileCall) : Elsewhere call ↔ Spares .state call := by
  cases call with
  | _ => exact Iff.rfl

theorem elsewhere_keeps {call : FileCall} (elsewhere : Elsewhere call) (fault : FileFault) (directory : Directory) :
    (Directory.device.perform fault directory call).2 .state = directory .state :=
  spares_keeps ((elsewhere_iff call).mp elsewhere) fault directory

theorem elsewhere_whole {call : FileCall} (elsewhere : Elsewhere call) (fault : FileFault) : ¬ Tearing (some (call, fault)) := by
  intro tearing
  cases call with
  | fileCreate path =>
    match path, fault with
    | .state, _ => exact elsewhere rfl
    | .slot _, _ => exact tearing
  | writeAll path data =>
    match path, fault with
    | .state, _ => exact elsewhere rfl
    | .slot _, _ => exact tearing
  | _ => exact tearing

theorem powerOnly : Directory.device.PowerOnly := by
  intro fault directory call reply after performed
  match fault with
  | .none => exact performed
  | .cut reached =>
    cases call with
    | fileCreate path =>
      cases reached with
      | zero => cases performed
      | succ => cases performed
    | _ => cases performed

/-- How file operations leave the journal under a plan: torn, as it was, or as
they write it without faults. -/
def Settles {α : Type} (operations : Program FileCall FileCall.Reply α) (plan : List FileFault) (directory : Directory) :
    Prop :=
  let after := (Directory.device.run operations plan directory).2
  (Tearing (Directory.device.lostIn operations plan directory) ∧ journal (after .state) = .error .storage) ∨
  (¬ Tearing (Directory.device.lostIn operations plan directory) ∧
    (after .state = directory .state ∨
      after .state = (Directory.device.run operations [] directory).2 .state ∧
        ∃ state, journal (after .state) = .ok state))

/-- What leaves the journal file alone leaves it to what comes afterwards. -/
theorem Settles.bind {α β : Type} {operations : Program FileCall FileCall.Reply α}
    {next : α → Program FileCall FileCall.Reply β} {directory : Directory} (elsewhere : operations.Makes Elsewhere)
    (following : ∀ result after, Directory.device.run operations [] directory = (some result, after) →
      after .state = directory .state → ∀ plan, Settles (next result) plan after) (plan : List FileFault) :
    Settles (operations.bind next) plan directory := by
  have kept : ∀ {result after}, Directory.device.run operations plan directory = (result, after) →
      after .state = directory .state := by
    intro result after ran
    have holds := @Device.run_keeps _ _ _ _ _ Directory.device Elsewhere (fun other => other .state = directory .state)
      (fun fault state call elsewhere same => (elsewhere_keeps elsewhere fault state).trans same) operations elsewhere
      plan directory rfl
    rw [ran] at holds
    exact holds
  rcases Directory.device.run_bind operations next plan directory with
    ⟨after, lost, goes, loses⟩ | ⟨result, after, rest, finished, goes, loses, _⟩
  · rw [Settles, goes, loses]
    refine .inr ⟨?_, .inl (kept lost)⟩
    cases stopped : Directory.device.lostIn operations plan directory with
    | none => exact id
    | some => exact elsewhere_whole (Device.lostIn_makes elsewhere stopped) _
  · have answered := Device.run_finished powerOnly finished
    have settles := following result after answered (kept finished) rest
    rw [Settles, kept finished] at settles
    rw [Settles, goes, loses, Device.run_bind_quiet answered]
    exact settles

private theorem readState_elsewhere : (AglOtaStorage.perform target capacity .readState).Makes Elsewhere :=
  (readState_spares .state).imp fun call => (elsewhere_iff call).mpr

private theorem writeSlot_elsewhere (slot : UInt8) (offset : Nat) (data : List UInt8) :
    (AglOtaStorage.perform target capacity (.writeSlot slot offset data)).Makes Elsewhere :=
  (writeSlot_spares (slot_ne_state slot).symm offset data).imp fun call => (elsewhere_iff call).mpr

private def writing {α : Type} (kind value : UInt8)
    (next : Option (Except OtaError Unit) → Program FileCall FileCall.Reply α) : Program FileCall FileCall.Reply α :=
  .request (.fileCreate .state) fun
    | .error _ => next (some (.error .storage))
    | .ok () => .request (.writeAll .state [kind, value]) fun
      | .error _ => next (some (.error .storage))
      | .ok () => next (some (.ok ()))

private theorem writeState_writing {state : SlotState} {kind value : UInt8} (encoded : state.encode = some (kind, value))
    {α : Type} (next : Option (Except OtaError Unit) → Program FileCall FileCall.Reply α) :
    (AglOtaStorage.perform target capacity (.writeState state)).bind next = writing kind value next := by
  simp only [AglOtaStorage.perform, AglOtaStorage.writeState, encoded]
  apply congrArg (Program.request (FileCall.fileCreate .state))
  funext created
  cases created with
  | error => rfl
  | ok =>
    apply congrArg (Program.request (FileCall.writeAll .state [kind, value]))
    funext written
    cases written with
    | error => rfl
    | ok => rfl

private theorem journal_short (kind value : UInt8) {reached : Nat} (short : reached < 2) :
    journal (some ([kind, value].take reached)) = .error .storage := by
  match reached, short with
  | 0, _ => rfl
  | 1, _ => rfl

private theorem writing_cut {α : Type} (kind value : UInt8)
    (next : Option (Except OtaError Unit) → Program FileCall FileCall.Reply α) (reached : Nat) (rest : List FileFault)
    (directory : Directory) :
    Directory.device.run (writing kind value next) (.none :: .cut reached :: rest) directory =
        (none, directory.put .state ([kind, value].take reached)) ∧
      Directory.device.lostIn (writing kind value next) (.none :: .cut reached :: rest) directory =
        some (.writeAll .state [kind, value], .cut reached) := by
  apply rewrite_cut
  rfl

private theorem writing_settles {α : Type} {kind value : UInt8} {state : SlotState}
    (decoded : SlotState.decode kind value = some state)
    {next : Option (Except OtaError Unit) → Program FileCall FileCall.Reply α} {result : α}
    (ends : next (some (.ok ())) = .pure result) (plan : List FileFault) (directory : Directory) :
    Settles (writing kind value next) plan directory := by
  have created := create_performs directory .state
  have written := write_performs directory .state [kind, value]
  have last (rest : List FileFault) (after : Directory) :
      Directory.device.run (next (some (.ok ()))) rest after = (some result, after) := by
    rw [ends]
    rfl
  have read := put_journal decoded directory
  have quiet : Directory.device.run (writing kind value next) [] directory =
      (some result, directory.put .state [kind, value]) :=
    (Device.run_reply [] created).trans ((Device.run_reply [] written).trans (last _ _))
  have whole (ran : Directory.device.run (writing kind value next) plan directory =
      (some result, directory.put .state [kind, value])) : Settles (writing kind value next) plan directory := by
    rw [Settles, Device.lostIn_finished ran, ran, quiet]
    exact .inr ⟨id, .inr ⟨rfl, state, read⟩⟩
  cases plan with
  | nil => exact whole quiet
  | cons first plan =>
    cases first with
    | cut reached =>
      cases reached with
      | zero => exact .inr ⟨id, .inl rfl⟩
      | succ => exact .inl ⟨trivial, congrArg journal (put_self directory .state [])⟩
    | none =>
      cases plan with
      | nil =>
        apply whole
        apply (Device.run_reply [FileFault.none] created).trans
        apply (Device.run_reply [] written).trans
        exact last _ _
      | cons second rest =>
        cases second with
        | none =>
          apply whole
          apply (Device.run_reply (.none :: .none :: rest) created).trans
          apply (Device.run_reply (.none :: rest) written).trans
          exact last _ _
        | cut reached =>
          obtain ⟨ran, lost⟩ := writing_cut kind value next reached rest directory
          rw [Settles, ran, lost, quiet]
          by_cases short : reached < 2
          · refine .inl ⟨short, ?_⟩
            apply Eq.trans (congrArg journal (put_self directory .state _))
            exact journal_short kind value short
          · have all : [kind, value].take reached = [kind, value] := List.take_of_length_le (Nat.not_lt.mp short)
            rw [all]
            exact .inr ⟨short, .inr ⟨rfl, state, read⟩⟩

theorem disciplined_settles {program : Program StorageCall StorageCall.Reply (Except Failure EngineReply)}
    (disciplined : Disciplined capacity program) {directory : Directory} {state : SlotState}
    (held : journal (directory .state) = .ok state) (plan : List FileFault) :
    Settles (program.under (AglOtaStorage.perform target capacity)) plan directory := by
  induction disciplined generalizing directory plan with
  | pure => exact .inr ⟨id, .inl rfl⟩
  | slotCapacity _ ih => exact ih held plan
  | readState _ _ _ ih =>
    apply Settles.bind readState_elsewhere
    intro result after answered _
    cases answered.symm.trans (Device.serve_runs (readState_performs target capacity directory))
    rw [held]
    exact ih state (journal_recordable held) held
  | writeSlot _ _ _ ih =>
    apply Settles.bind (writeSlot_elsewhere _ _ _)
    intro result after _ same plan
    cases result with
    | none => exact .inr ⟨id, .inl rfl⟩
    | some reply =>
      apply ih reply
      rw [same]
      exact held
  | writeState recordable ends =>
    obtain ⟨kind, value, encoded, decoded⟩ := encode_decode recordable
    obtain ⟨result, finishes, _⟩ := ends (.ok ())
    rw [Program.under]
    apply (congrArg (Settles · plan directory) (writeState_writing encoded _)).mpr
    apply writing_settles decoded
    exact congrArg (Program.under (AglOtaStorage.perform target capacity)) finishes

section
variable (signer : SignatureScheme len) (target : Target) (capacity : Nat)

def operations (call : EngineCall len) : Program FileCall FileCall.Reply (Option (Except Failure EngineReply)) :=
  (call.program signer).under (AglOtaStorage.perform target capacity)

/-- The step loses power in a `write_state` that has truncated the journal file
and not yet written both bytes. -/
def Tears (step : AglStep len) : Prop :=
  Tearing (Directory.device.lostIn (operations signer target capacity step.input.call) step.input.plan step.before)

/-- The directory as the call leaves it when nothing befalls its file operations. -/
def uninterrupted (directory : Directory) (call : EngineCall len) : Directory :=
  (Directory.device.run (operations signer target capacity call) [] directory).2

/-- The next boot reads the journal of before the step, or the one its call is to write. -/
def CrashAtomic (step : AglStep len) : Prop :=
  ∃ state, ReadsBack step.after state ∧
    (ReadsBack step.before state ∨ ReadsBack (uninterrupted signer target capacity step.before step.input.call) state)

end

variable {signer : SignatureScheme len}

/-- The step stages packages for slots 0 and 1 only. -/
def Targeted (step : AglStep len) : Prop :=
  ∀ package payload signature, step.input.call = .stage package payload signature → package.slot.toNat < 2

theorem step_ran {input : AglInput len} {output} {directory after : Directory}
    (called : (aglEngine signer target capacity).step directory input = some (output, after)) :
    (Directory.device.run (operations signer target capacity input.call) input.plan directory).2 = after := by
  simp only [aglEngine] at called
  split at called
  next ran =>
    cases called
    exact congrArg Prod.snd ran
  next => cases called
  next ran =>
    obtain ⟨_, _, same⟩ := Option.map_eq_some_iff.mp called
    cases same
    exact congrArg Prod.snd ran

theorem quiet_step {directory after : Directory} {call : EngineCall len} {output}
    (called : (servedEngine signer (AglOtaStorage.backend target capacity)).step directory call = some (output, after)) :
    (aglEngine signer target capacity).step directory ⟨call, []⟩ = some (some output, after) ∧
      uninterrupted signer target capacity directory call = after := by
  simp only [servedEngine] at called
  split at called
  next => cases called
  next result _ ran =>
    obtain ⟨_, returns, same⟩ := Option.map_eq_some_iff.mp called
    cases same
    have quiet := Backend.run_under ran
    refine ⟨?_, congrArg Prod.snd quiet⟩
    simp only [aglEngine, quiet, returns, Option.map_some]

/-- From a journal that can be read, a step is atomic unless it tears the journal. -/
theorem step_atomic_iff {step : AglStep len} {state : SlotState} (readable : ReadsBack step.before state)
    (targeted : Targeted step)
    (called : (aglEngine signer target capacity).step step.before step.input = some (step.output, step.after)) :
    CrashAtomic signer target capacity step ↔ ¬ Tears signer target capacity step := by
  have held := readsBack_iff.mp readable
  have disciplined : Disciplined capacity (step.input.call.program signer) :=
    program_disciplined fun package payload signature staged _ => targeted package payload signature staged
  have settles : Settles (operations signer target capacity step.input.call) step.input.plan step.before :=
    disciplined_settles disciplined held step.input.plan
  rw [Settles, step_ran called] at settles
  rcases settles with ⟨torn, unread⟩ | ⟨whole, same | ⟨written, next, read⟩⟩
  · constructor
    · intro given
      obtain ⟨_, read, _⟩ := given
      cases unread.symm.trans (readsBack_iff.mp read)
    · intro whole
      exact absurd torn whole
  · apply iff_of_true _ whole
    exact ⟨state, readsBack_iff.mpr ((congrArg journal same).trans held), .inl readable⟩
  · apply iff_of_true _ whole
    exact ⟨next, readsBack_iff.mpr read, .inr (readsBack_iff.mpr ((congrArg journal written).symm.trans read))⟩

private theorem run_atomic_iff {start directory : Directory} {initial : SlotState} {past : List (AglStep len)}
    (readable : ReadsBack start initial) (reached : (aglEngine signer target capacity).Reaches start past directory)
    (targeted : ∀ step ∈ past, Targeted step) :
    ((∀ step ∈ past, CrashAtomic signer target capacity step) ↔ ∀ step ∈ past, ¬ Tears signer target capacity step) ∧
      ((∀ step ∈ past, CrashAtomic signer target capacity step) → ∃ state, ReadsBack directory state) := by
  induction reached with
  | start => exact ⟨iff_of_true nofun nofun, fun _ => ⟨initial, readable⟩⟩
  | call earlier called ih =>
    obtain ⟨last, others⟩ := List.forall_mem_cons.mp targeted
    obtain ⟨same, reads⟩ := ih others
    rw [List.forall_mem_cons, List.forall_mem_cons]
    refine ⟨⟨?_, ?_⟩, ?_⟩
    · intro given
      obtain ⟨atomic, past_atomic⟩ := given
      obtain ⟨state, read⟩ := reads past_atomic
      exact ⟨(step_atomic_iff read last called).mp atomic, same.mp past_atomic⟩
    · intro given
      obtain ⟨whole, past_whole⟩ := given
      have past_atomic := same.mpr past_whole
      obtain ⟨state, read⟩ := reads past_atomic
      exact ⟨(step_atomic_iff read last called).mpr whole, past_atomic⟩
    · intro given
      obtain ⟨⟨state, read, _⟩, _⟩ := given
      exact ⟨state, read⟩

/-- In a run of an engine that stages packages for slots 0 and 1 only, every
next boot reads the journal of before or after the step, exactly when the power
is never lost in a `write_state` that has truncated the journal file and not yet
written it. -/
theorem crash_atomic_iff {start directory : Directory} {initial : SlotState} {past : List (AglStep len)}
    (readable : ReadsBack start initial) (reached : (aglEngine signer target capacity).Reaches start past directory)
    (targeted : ∀ step ∈ past, Targeted step) :
    (∀ step ∈ past, CrashAtomic signer target capacity step) ↔ ∀ step ∈ past, ¬ Tears signer target capacity step :=
  (run_atomic_iff readable reached targeted).1

/-- The power goes off before the journal file is truncated, and recovery is repeated. -/
theorem crash_atomic_retried :
    ∃ (directory : Directory) (past : List (AglStep 32)),
      (aglEngine ((DemoSigner.mk 0xCAFE).scheme 32) linux64 16).Reaches .empty past directory ∧ past.length = 2 ∧
      ∀ step ∈ past, CrashAtomic ((DemoSigner.mk 0xCAFE).scheme 32) linux64 16 step := by
  have lost : (aglEngine ((DemoSigner.mk 0xCAFE).scheme 32) linux64 16).step .empty ⟨.recover, [.none, .cut 0]⟩ =
      some (none, .empty) := rfl
  have retried : (aglEngine ((DemoSigner.mk 0xCAFE).scheme 32) linux64 16).step .empty ⟨.recover, []⟩ =
      some (some (.ok (.slot 0)), _) := rfl
  have reached := (Machine.Reaches.call .start lost).call retried
  refine ⟨_, _, reached, rfl, (crash_atomic_iff empty_readsBack reached ?_).mpr ?_⟩
  · exact List.forall_mem_cons.mpr ⟨nofun, List.forall_mem_singleton.mpr nofun⟩
  · exact List.forall_mem_cons.mpr ⟨id, List.forall_mem_singleton.mpr id⟩

/-- The power goes off in a recovery that has truncated the journal file. -/
theorem recovery_tears :
    ¬ ∀ (start directory : Directory) (initial : SlotState) (past : List (AglStep 32)), ReadsBack start initial →
        (aglEngine ((DemoSigner.mk 0xCAFE).scheme 32) linux64 16).Reaches start past directory →
        (∀ step ∈ past, Targeted step) →
        ∀ step ∈ past, CrashAtomic ((DemoSigner.mk 0xCAFE).scheme 32) linux64 16 step := by
  intro claimed
  have readable : ReadsBack (Directory.empty.put .state [0x00, 0x00]) .activeSlot0 := readsBack_iff.mpr rfl
  have lost : (aglEngine ((DemoSigner.mk 0xCAFE).scheme 32) linux64 16).step (Directory.empty.put .state [0x00, 0x00])
      ⟨.recover, [.none, .none, .none, .cut 1]⟩ = some (none, (Directory.empty.put .state [0x00, 0x00]).put .state []) := rfl
  have atomic := claimed _ _ _ _ readable (.call .start lost) (List.forall_mem_singleton.mpr nofun) _ List.mem_cons_self
  obtain ⟨state, read, _⟩ := atomic
  cases readsBack_iff.mp read

end TptChassis.Proofs.AglCrash
