import TptChassis.Proofs.AglCrash
import TptChassis.Proofs.AglJournal

/-! The slots of the AGL storage when the power can go off. `write_slot` reads the
old image before it writes the new one, and a file that is shorter than the slot
cannot be read, so a slot whose file is torn is never written again. -/

namespace TptChassis.Proofs.AglRetry
open Ota OtaEffects OtaPrograms AglFiles AglCrash AglJournal Slices Words

variable {α β : Type} {len capacity : Nat} {slot : UInt8} {target : Target} {signer : SignatureScheme len}

/-- The power goes off when the file of a slot is truncated and not yet whole. -/
def Truncating (capacity : Nat) (slot : UInt8) : Option (FileCall × FileFault) → Prop
  | some (.fileCreate path, .cut (_ + 1)) => path = .slot slot ∧ 0 < capacity
  | some (.writeAll path data, .cut reached) => path = .slot slot ∧ reached < data.length
  | _ => False

theorem spares_whole {call : FileCall} (spares : Spares (.slot slot) call) (fault : FileFault) :
    ¬ Truncating capacity slot (some (call, fault)) := by
  intro torn
  cases call with
  | fileCreate path =>
    match fault with
    | .none => exact torn
    | .cut 0 => exact torn
    | .cut (_ + 1) => exact spares torn.1
  | writeAll path data =>
    cases fault with
    | none => exact torn
    | cut reached => exact spares torn.1
  | _ => exact torn

/-- The slot can be written afterwards exactly when it could before and its file
was not torn in between. -/
def Tracks (capacity : Nat) (slot : UInt8) (directory after : Directory) (lost : Option (FileCall × FileFault)) : Prop :=
  Writable capacity after slot ↔ Writable capacity directory slot ∧ ¬ Truncating capacity slot lost

/-- File operations end in such a directory. -/
def Leaves (capacity : Nat) (slot : UInt8) (operations : Program FileCall FileCall.Reply α) (plan : List FileFault)
    (directory : Directory) : Prop :=
  Tracks capacity slot directory (Directory.device.run operations plan directory).2
    (Directory.device.lostIn operations plan directory)

theorem pure_leaves (result : α) (plan : List FileFault) (directory : Directory) :
    Leaves capacity slot (.pure result) plan directory :=
  (and_iff_left id).symm

private theorem same_tracks {directory after : Directory} (same : after (.slot slot) = directory (.slot slot))
    {lost : Option (FileCall × FileFault)} (whole : ¬ Truncating capacity slot lost) :
    Tracks capacity slot directory after lost := by
  rw [Tracks, Writable, same]
  exact (and_iff_left whole).symm

theorem spares_leaves {operations : Program FileCall FileCall.Reply α} (spares : operations.Makes (Spares (.slot slot)))
    (plan : List FileFault) (directory : Directory) : Leaves capacity slot operations plan directory := by
  apply same_tracks
  · exact @Device.run_keeps _ _ _ _ _ Directory.device (Spares (.slot slot))
      (fun other => other (.slot slot) = directory (.slot slot))
      (fun fault state call spares same => (spares_keeps spares fault state).trans same) operations spares plan directory rfl
  · cases lost : Directory.device.lostIn operations plan directory with
    | none => exact id
    | some => exact spares_whole (Device.lostIn_makes spares lost) _

/-- What leaves the slot so leaves it to what comes afterwards. -/
theorem Leaves.bind {operations : Program FileCall FileCall.Reply α} {next : α → Program FileCall FileCall.Reply β}
    {plan : List FileFault} {directory : Directory} (first : Leaves capacity slot operations plan directory)
    (following : ∀ result rest after, Leaves capacity slot (next result) rest after) :
    Leaves capacity slot (operations.bind next) plan directory := by
  apply @Device.ends_bind _ _ _ _ _ _ _ operations next (Tracks capacity slot directory)
  · intro after ran
    rw [Leaves, ran] at first
    exact first
  · intro result after rest ran
    rw [Leaves, Device.lostIn_finished ran, ran] at first
    have whole : Writable capacity after slot ↔ Writable capacity directory slot := first.trans (and_iff_left id)
    have second := following result rest after
    rw [Leaves, Tracks, whole] at second
    exact second

/-- An operation that changes nothing leaves the slot to what comes afterwards. -/
private theorem asks_leaves {call : FileCall} {next : call.Reply → Program FileCall FileCall.Reply α} {directory : Directory}
    (spares : Spares (.slot slot) call) (keeps : ∀ fault, (Directory.device.perform fault directory call).2 = directory)
    (following : ∀ reply, Directory.device.perform .none directory call = (some reply, directory) →
      ∀ rest, Leaves capacity slot (next reply) rest directory) (plan : List FileFault) :
    Leaves capacity slot (.request call next) plan directory := by
  have same : ∀ {fault reply after}, Directory.device.perform fault directory call = (reply, after) → after = directory := by
    intro fault reply after performed
    have kept := keeps fault
    rw [performed] at kept
    exact kept
  apply @Device.ends_request _ _ _ _ _ Directory.device call next (Tracks capacity slot directory)
  · intro after performed
    exact same_tracks (congrFun (same performed) _) (spares_whole spares _)
  · intro reply after performed
    cases same performed
    exact following reply (powerOnly _ _ _ _ _ performed) plan.tail

theorem put_writable (directory : Directory) (contents : List UInt8) :
    Writable capacity (directory.put (.slot slot) contents) slot ↔ capacity ≤ contents.length := by
  simp only [Writable, put_self, Option.some.injEq, forall_eq']

private theorem put_tracks {directory : Directory} (writable : Writable capacity directory slot) (contents : List UInt8)
    {lost : Option (FileCall × FileFault)} (whole : capacity ≤ contents.length ↔ ¬ Truncating capacity slot lost) :
    Tracks capacity slot directory (directory.put (.slot slot) contents) lost :=
  (put_writable directory contents).trans (whole.trans (and_iff_right writable).symm)

private theorem create_tracks {directory after : Directory} (writable : Writable capacity directory slot) {fault : FileFault}
    (performed : Directory.device.perform fault directory (.fileCreate (.slot slot)) = (none, after)) :
    Tracks capacity slot directory after (some (.fileCreate (.slot slot), fault)) := by
  match fault with
  | .none => cases performed
  | .cut 0 =>
    cases performed
    exact (and_iff_left id).symm
  | .cut (_ + 1) =>
    cases performed
    apply put_tracks writable
    constructor
    · intro empty torn
      exact Nat.not_lt.mpr empty torn.2
    · intro whole
      exact Nat.not_lt.mp fun room => whole ⟨rfl, room⟩

private theorem write_tracks {directory after : Directory} (writable : Writable capacity directory slot)
    (buf : Buffer UInt8 capacity) {fault : FileFault}
    (performed : Directory.device.perform fault (directory.put (.slot slot) []) (.writeAll (.slot slot) buf.elements) =
      (none, after)) :
    Tracks capacity slot directory after (some (.writeAll (.slot slot) buf.elements, fault)) := by
  cases fault with
  | none => cases performed
  | cut reached =>
    cases (write_cut directory (.slot slot) buf.elements reached).symm.trans performed
    apply put_tracks writable
    rw [List.length_take, buf.sized, Nat.le_min, and_iff_left (Nat.le_refl capacity)]
    constructor
    · intro all torn
      exact Nat.not_lt.mpr all (buf.sized ▸ torn.2)
    · intro whole
      exact Nat.not_lt.mp fun short => whole ⟨rfl, buf.sized.symm ▸ short⟩

private theorem patch_leaves {directory : Directory} (writable : Writable capacity directory slot)
    (buf : Buffer UInt8 capacity) (offset : Nat) (data : List UInt8) (plan : List FileFault) :
    Leaves capacity slot ((patch target slot buf offset data).run.bind fun result => .pure (returned result)) plan
      directory := by
  rcases patch_cases target slot buf offset data with ⟨failure, stops⟩ | ⟨copied, rewrites⟩
  · rw [stops]
    exact pure_leaves _ plan directory
  · rw [rewrites]
    apply @Device.ends_request _ _ _ _ _ Directory.device (.fileCreate (.slot slot)) _ (Tracks capacity slot directory)
    · intro after performed
      exact create_tracks writable performed
    · intro reply after performed
      cases (create_performs directory (.slot slot)).symm.trans (powerOnly _ _ _ _ _ performed)
      apply @Device.ends_request _ _ _ _ _ Directory.device (.writeAll (.slot slot) copied.elements) _
        (Tracks capacity slot directory)
      · intro after performed
        exact write_tracks writable copied performed
      · intro reply after performed
        cases (write_performs directory (.slot slot) copied.elements).symm.trans (powerOnly _ _ _ _ _ performed)
        exact put_tracks writable copied.elements (iff_of_true (Nat.le_of_eq copied.sized.symm) id)

private theorem writeSlot_leaves (offset : Nat) (data : List UInt8) (plan : List FileFault) (directory : Directory) :
    Leaves capacity slot (AglOtaStorage.perform target capacity (.writeSlot slot offset data)) plan directory := by
  apply asks_leaves
  · trivial
  · exact fun fault => rfl
  intro present asked rest
  cases present with
  | false =>
    apply patch_leaves
    intro contents held
    have found := exists_performs directory (.slot slot)
    rw [held] at found
    cases found.symm.trans asked
  | true =>
    apply asks_leaves
    · trivial
    · exact fun fault => rfl
    intro opened _ rest
    cases opened with
    | error => exact pure_leaves _ rest directory
    | ok =>
      apply asks_leaves
      · trivial
      · exact fun fault => rfl
      intro read performed rest
      cases read with
      | error => exact pure_leaves _ rest directory
      | ok buf =>
        -- An image has been read, so the file was long enough.
        apply patch_leaves
        intro contents held
        have front := (read_performs capacity held).symm.trans performed
        rw [Directory.readFront] at front
        split at front
        next enough => exact enough
        next => cases front

theorem call_leaves (call : StorageCall) (plan : List FileFault) (directory : Directory) :
    Leaves capacity slot (AglOtaStorage.perform target capacity call) plan directory := by
  cases call with
  | slotCapacity => exact pure_leaves _ plan directory
  | readState => exact spares_leaves (readState_spares _) plan directory
  | writeState state => exact spares_leaves (writeState_spares (slot_ne_state slot) state) plan directory
  | writeSlot other offset data =>
    by_cases same : other = slot
    · rw [same]
      exact writeSlot_leaves offset data plan directory
    · have different : AglPath.slot slot ≠ .slot other := by
        intro equal
        cases equal
        exact same rfl
      exact spares_leaves (writeSlot_spares different offset data) plan directory

theorem under_leaves (program : Program StorageCall StorageCall.Reply α) (plan : List FileFault) (directory : Directory) :
    Leaves capacity slot (program.under (AglOtaStorage.perform target capacity)) plan directory := by
  induction program generalizing plan directory with
  | pure result => exact pure_leaves _ plan directory
  | request call next ih =>
    apply Leaves.bind (call_leaves call plan directory)
    intro reply rest after
    cases reply with
    | none => exact pure_leaves _ rest after
    | some reply => exact ih reply rest after

section
variable (signer : SignatureScheme len) (target : Target) (capacity : Nat)

/-- The step loses power in a `write_slot` that has truncated the file of the slot
and not yet written all of its image. -/
def TearsSlot (slot : UInt8) (step : AglStep len) : Prop :=
  Truncating capacity slot
    (Directory.device.lostIn (operations signer target capacity step.input.call) step.input.plan step.before)

/-- The package can be staged from the directory when nothing befalls the file
operations, and its slot then starts with its payload. -/
def Retried (directory : Directory) (package : UpdatePackage) (payload : List UInt8) (signature : Buffer UInt8 len) : Prop :=
  ∃ after contents,
    (aglEngine signer target capacity).step directory ⟨.stage package payload signature, []⟩ =
      some (some (.ok .done), after) ∧
    after (.slot package.slot) = some contents ∧ payload <+: contents

end

theorem step_writable_iff (step : AglStep len)
    (called : (aglEngine signer target capacity).step step.before step.input = some (step.output, step.after)) :
    Writable capacity step.after slot ↔
      Writable capacity step.before slot ∧ ¬ TearsSlot signer target capacity slot step := by
  have leaves : Leaves capacity slot (operations signer target capacity step.input.call) step.input.plan step.before :=
    under_leaves _ step.input.plan step.before
  rw [Leaves, step_ran called] at leaves
  exact leaves

/-- In a run a slot can be written as long as its file is not torn. -/
theorem run_writable_iff {start directory : Directory} {past : List (AglStep len)}
    (reached : (aglEngine signer target capacity).Reaches start past directory) :
    Writable capacity directory slot ↔
      Writable capacity start slot ∧ ∀ step ∈ past, ¬ TearsSlot signer target capacity slot step := by
  induction reached with
  | start => exact (and_iff_left nofun).symm
  | call earlier called ih =>
    rw [List.forall_mem_cons, step_writable_iff ⟨_, _, _, _⟩ called, ih]
    exact ⟨fun given => ⟨given.1.1, given.2, given.1.2⟩, fun given => ⟨⟨given.1, given.2.2⟩, given.2.1⟩⟩

variable {package : UpdatePackage} {payload : List UInt8} {signature : Buffer UInt8 len} {directory : Directory}

theorem writable_retried (accepts : Accepts signer capacity package payload signature)
    (writable : Writable capacity directory package.slot) :
    Retried signer target capacity directory package payload signature := by
  obtain ⟨image, done⟩ := writable.patched payload
  have written := writeSlot_performs target accepts.room.1 accepts.room.2 done
  have noted := @writeState_performs target capacity (.pending package.slot) _ _ rfl (directory.put (.slot package.slot) image)
  have ran : (AglOtaStorage.backend target capacity).run (.request (.writeSlot package.slot 0 payload) (staged package))
      directory = some (.ok .done, (directory.put (.slot package.slot) image).put .state [0x01, package.slot]) :=
    (Backend.run_reply written).trans (Backend.run_reply noted)
  have stepped := served_step ((run_accepted accepts (slotCapacity_performs target capacity directory)).trans ran) rfl
  refine ⟨_, image, (quiet_step stepped).1, ?_, ?_⟩
  · exact (put_other _ _ (slot_ne_state package.slot)).trans (put_self _ _ _)
  · rw [patched_imageOf] at done
    obtain ⟨buf, _, rfl⟩ := Option.map_eq_some_iff.mp done
    exact front_overwrite buf.elements payload

theorem retried_writable (accepts : Accepts signer capacity package payload signature)
    (retried : Retried signer target capacity directory package payload signature) :
    Writable capacity directory package.slot := by
  intro contents held
  apply Nat.not_lt.mp
  intro torn
  obtain ⟨_, _, stepped, _⟩ := retried
  have refused := writeSlot_refuses target 0 payload held torn
  have ran : (AglOtaStorage.backend target capacity).run (.request (.writeSlot package.slot 0 payload) (staged package))
      directory = some (.error (.error .writeFailed), directory) := Backend.run_reply refused
  have failed := served_step ((run_accepted accepts (slotCapacity_performs target capacity directory)).trans ran) rfl
  cases (quiet_step failed).1.symm.trans stepped

/-- After any run, with power lost anywhere, a package that passes the checks can
be staged exactly when its slot could be written at the start and the power was
never lost in a `write_slot` that had truncated its file and not yet written all of it. -/
theorem retry_iff {start directory : Directory} {past : List (AglStep len)}
    (reached : (aglEngine signer target capacity).Reaches start past directory)
    (accepts : Accepts signer capacity package payload signature) :
    Retried signer target capacity directory package payload signature ↔
      Writable capacity start package.slot ∧ ∀ step ∈ past, ¬ TearsSlot signer target capacity package.slot step := by
  rw [← run_writable_iff reached]
  exact ⟨retried_writable accepts, writable_retried accepts⟩

private theorem operations_accepted (accepts : Accepts signer capacity package payload signature) :
    operations signer target capacity (.stage package payload signature) =
      (Program.request (StorageCall.writeSlot package.slot 0 payload) (staged package)).under
        (AglOtaStorage.perform target capacity) := by
  obtain ⟨next, checks, writes⟩ := program_accepted accepts
  rw [operations, checks, ← writes]
  rfl

private theorem patch_cut {data : List UInt8} (sum : target.add 0 data.length = some (0 + data.length))
    (fits : 0 + data.length ≤ capacity) (buf : Buffer UInt8 capacity) (reached : Nat) (directory : Directory)
    (next : Option (Except OtaError Unit) → Program FileCall FileCall.Reply α) :
    Directory.device.run (((patch target slot buf 0 data).run.bind fun result => .pure (returned result)).bind next)
          [.none, .cut reached] directory =
        (none, directory.put (.slot slot) ((overwrite buf.elements 0 data).take reached)) ∧
      Directory.device.lostIn (((patch target slot buf 0 data).run.bind fun result => .pure (returned result)).bind next)
          [.none, .cut reached] directory =
        some (.writeAll (.slot slot) (overwrite buf.elements 0 data), .cut reached) := by
  obtain ⟨copied, elements, rewrites⟩ := patch_rewrites sum fits slot buf
  rw [rewrites, ← elements]
  apply rewrite_cut
  rfl

theorem stage_cut (accepts : Accepts signer capacity package payload signature)
    (missing : directory (.slot package.slot) = none) (target : Target) (reached : Nat) :
    let image := overwrite (List.replicate capacity 0) 0 payload
    (aglEngine signer target capacity).step directory
        ⟨.stage package payload signature, [.none, .none, .cut reached]⟩ =
      some (none, directory.put (.slot package.slot) (image.take reached)) ∧
    Directory.device.lostIn (operations signer target capacity (.stage package payload signature))
        [.none, .none, .cut reached] directory =
      some (.writeAll (.slot package.slot) image, .cut reached) := by
  have sum := payload_sum target accepts.room.2
  have asked := exists_performs directory (.slot package.slot)
  rw [missing] at asked
  obtain ⟨cut, lost⟩ := @patch_cut _ capacity package.slot target payload ((Nat.zero_add _).symm ▸ sum)
    ((Nat.zero_add _).symm ▸ accepts.room.1) (.fill capacity 0) reached directory
    (Program.orStop fun reply => (staged package reply).under (AglOtaStorage.perform target capacity))
  have ran : Directory.device.run (operations signer target capacity (.stage package payload signature))
      [.none, .none, .cut reached] directory =
        (none, directory.put (.slot package.slot) ((overwrite (List.replicate capacity 0) 0 payload).take reached)) := by
    rw [operations_accepted accepts]
    exact (Device.run_reply [FileFault.none, .none, .cut reached] asked).trans cut
  constructor
  · rw [operations] at ran
    simp only [aglEngine, ran]
  · rw [operations_accepted accepts]
    exact (Device.lostIn_reply [FileFault.none, .none, .cut reached] asked).trans lost

/-- The power goes off when the image is written, and the package is staged again. -/
theorem retry_iff_written :
    ∃ directory, (aglEngine ((DemoSigner.mk 0xCAFE).scheme 32) linux64 16).step .empty
        ⟨stageSigned ⟨0xCAFE⟩ 32 ⟨1, 3⟩ [1, 2, 3], [.none, .none, .cut 16]⟩ = some (none, directory) ∧
      Retried ((DemoSigner.mk 0xCAFE).scheme 32) linux64 16 directory ⟨1, 3⟩ [1, 2, 3]
        ((DemoSigner.mk 0xCAFE).hash 32 (header ⟨1, 3⟩ ++ [1, 2, 3])) := by
  have accepts := @accepts_signed 16 32 ⟨0xCAFE⟩ ⟨1, 3⟩ [1, 2, 3] rfl (by decide)
  obtain ⟨cut, lost⟩ := @stage_cut _ _ _ _ _ _ .empty accepts rfl linux64 16
  rw [stageSigned]
  have writable : Writable 16 .empty 1 := by
    intro contents held
    cases held
  refine ⟨_, cut, (retry_iff (.call .start cut) accepts).mpr ⟨writable, List.forall_mem_singleton.mpr ?_⟩⟩
  rw [TearsSlot, lost]
  intro torn
  exact Nat.lt_irrefl 16 torn.2

/-- The power goes off when the file is truncated, and the package cannot be staged again. -/
theorem truncated_not_retried :
    ∃ directory, (aglEngine ((DemoSigner.mk 0xCAFE).scheme 32) linux64 16).step .empty
        ⟨stageSigned ⟨0xCAFE⟩ 32 ⟨1, 3⟩ [1, 2, 3], [.none, .none, .cut 0]⟩ = some (none, directory) ∧
      ¬ Retried ((DemoSigner.mk 0xCAFE).scheme 32) linux64 16 directory ⟨1, 3⟩ [1, 2, 3]
        ((DemoSigner.mk 0xCAFE).hash 32 (header ⟨1, 3⟩ ++ [1, 2, 3])) := by
  have accepts := @accepts_signed 16 32 ⟨0xCAFE⟩ ⟨1, 3⟩ [1, 2, 3] rfl (by decide)
  obtain ⟨cut, _⟩ := @stage_cut _ _ _ _ _ _ .empty accepts rfl linux64 0
  rw [stageSigned]
  refine ⟨_, cut, ?_⟩
  intro retried
  have whole := retried_writable accepts retried _ (put_self _ _ _)
  exact absurd whole (Nat.not_succ_le_zero 15)

end TptChassis.Proofs.AglRetry
