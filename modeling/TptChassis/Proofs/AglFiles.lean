import TptChassis.OtaAgl
import TptChassis.Proofs.OtaPrograms

/-! What the methods of the AGL storage do to its directory when no file operation
meets a fault: one equation for each storage call. -/

namespace TptChassis.Proofs.AglFiles
open Ota OtaPrograms Slices Words

variable {target : Target} {capacity : Nat} {directory : Directory}

def linux64 : Target := ⟨UInt64.size, by decide⟩

theorem payload_sum (target : Target) {size : Nat} (short : size ≤ otaMaxPayload) : target.add 0 size = some size :=
  target.zero_add (Nat.lt_of_le_of_lt short (by decide))

theorem put_self (directory : Directory) (path : AglPath) (contents : List UInt8) :
    directory.put path contents path = some contents :=
  if_pos rfl

theorem put_other (directory : Directory) {path other : AglPath} (contents : List UInt8) (different : other ≠ path) :
    directory.put path contents other = directory other :=
  if_neg different

theorem slot_ne_state (slot : UInt8) : AglPath.slot slot ≠ .state := by
  intro same
  cases same

theorem put_put (directory : Directory) (path : AglPath) (first second : List UInt8) :
    (directory.put path first).put path second = directory.put path second := by
  funext other
  by_cases same : other = path
  · rw [same, put_self, put_self]
  · rw [put_other _ _ same, put_other _ _ same, put_other _ _ same]

/-- What the contents of the journal file are read as. -/
def journal : Option (List UInt8) → Except OtaError SlotState
  | none => .ok .activeSlot0
  | some (kind :: value :: _) =>
    match SlotState.decode kind value with
    | none => .error .storage
    | some state => .ok state
  | some _ => .error .storage

theorem journal_recordable {contents : Option (List UInt8)} {state : SlotState} (held : journal contents = .ok state) :
    Recordable state := by
  unfold journal at held
  split at held
  · cases held
    trivial
  · split at held
    next => cases held
    next decoded =>
      cases held
      exact decode_recordable decoded
  · cases held

/-- Reading the journal back, as the next boot does, gives the state. -/
def ReadsBack (directory : Directory) (state : SlotState) : Prop :=
  Directory.device.run AglOtaStorage.readState [] directory = (some (.ok state), directory)

theorem exists_performs (directory : Directory) (path : AglPath) :
    Directory.device.perform .none directory (.pathExists path) = (some (directory path).isSome, directory) :=
  rfl

private theorem open_performs {path : AglPath} {contents : List UInt8} (held : directory path = some contents) :
    Directory.device.perform .none directory (.fileOpen path) = (some (.ok ()), directory) := by
  change (some (if (directory path).isSome = true then _ else _), directory) = _
  rw [held]
  rfl

theorem read_performs {path : AglPath} {contents : List UInt8} (length : Nat)
    (held : directory path = some contents) :
    Directory.device.perform .none directory (.readExact path length) =
      (some (Directory.readFront length (some contents)), directory) := by
  rw [← held]
  rfl

def decoded : Option SlotState → Agl SlotState
  | none => AglOtaStorage.fail .storage
  | some state => return state

theorem readState_runs (directory : Directory) :
    Directory.device.run AglOtaStorage.readState [] directory =
      (some ((journal (directory .state)).mapError .error), directory) := by
  have asked := exists_performs directory .state
  cases held : directory .state with
  | none =>
    rw [held] at asked
    exact (Device.run_reply [] asked).trans rfl
  | some contents =>
    rw [held] at asked
    apply (Device.run_reply [] asked).trans
    apply (Device.run_reply [] (open_performs held)).trans
    apply (Device.run_reply [] (read_performs 2 held)).trans
    match contents with
    | [] => rfl
    | [_] => rfl
    | kind :: value :: rest =>
      simp only [journal]
      change Directory.device.run (decoded (SlotState.decode kind value)) [] directory = _
      cases SlotState.decode kind value with
      | none => rfl
      | some state => rfl

theorem readsBack_iff {state : SlotState} : ReadsBack directory state ↔ journal (directory .state) = .ok state := by
  rw [ReadsBack, readState_runs]
  cases journal (directory .state) with
  | error error =>
    constructor
    · intro same
      cases same
    · intro same
      cases same
  | ok state =>
    constructor
    · intro same
      cases same
      rfl
    · intro same
      cases same
      rfl

theorem empty_readsBack : ReadsBack .empty .activeSlot0 := readsBack_iff.mpr rfl

theorem put_journal {kind value : UInt8} {state : SlotState} (decodes : SlotState.decode kind value = some state)
    (directory : Directory) : journal (directory.put .state [kind, value] .state) = .ok state := by
  simp only [put_self, journal, decodes]

theorem readState_performs (target : Target) (capacity : Nat) (directory : Directory) :
    (AglOtaStorage.backend target capacity).perform .readState directory =
      some (journal (directory .state), directory) := by
  apply Device.serve_performs
  apply (Device.run_bind_quiet (readState_runs directory) _).trans
  cases journal (directory .state) with
  | error error => rfl
  | ok state => rfl

theorem slotCapacity_performs (target : Target) (capacity : Nat) (directory : Directory) :
    (AglOtaStorage.backend target capacity).perform .slotCapacity directory = some (capacity, directory) :=
  rfl

theorem create_performs (directory : Directory) (path : AglPath) :
    Directory.device.perform .none directory (.fileCreate path) = (some (.ok ()), directory.put path []) :=
  rfl

theorem write_performs (directory : Directory) (path : AglPath) (data : List UInt8) :
    Directory.device.perform .none (directory.put path []) (.writeAll path data) =
      (some (.ok ()), directory.put path data) := by
  change (some (Except.ok ()), (directory.put path []).put path (((directory.put path []) path).getD [] ++ data)) = _
  rw [put_self, put_put]
  rfl

theorem write_cut (directory : Directory) (path : AglPath) (data : List UInt8) (reached : Nat) :
    Directory.device.perform (.cut reached) (directory.put path []) (.writeAll path data) =
      (none, directory.put path (data.take reached)) := by
  change (none, (directory.put path []).put path (((directory.put path []) path).getD [] ++ data.take reached)) = _
  rw [put_self, put_put]
  rfl

theorem rewrite_cut {α : Type} {path : AglPath} {data : List UInt8}
    {next following : Except Unit Unit → Program FileCall FileCall.Reply α}
    (writes : next (.ok ()) = .request (.writeAll path data) following) (reached : Nat) (rest : List FileFault)
    (directory : Directory) :
    Directory.device.run (.request (.fileCreate path) next) (.none :: .cut reached :: rest) directory =
        (none, directory.put path (data.take reached)) ∧
      Directory.device.lostIn (.request (.fileCreate path) next) (.none :: .cut reached :: rest) directory =
        some (.writeAll path data, .cut reached) := by
  have created := create_performs directory path
  have cut := write_cut directory path data reached
  constructor
  · apply (Device.run_reply (.none :: .cut reached :: rest) created).trans
    rw [writes]
    exact Device.run_lost (.cut reached :: rest) cut
  · apply (Device.lostIn_reply (.none :: .cut reached :: rest) created).trans
    rw [writes]
    exact Device.lostIn_lost (.cut reached :: rest) cut

theorem writeState_performs (target : Target) (capacity : Nat) {state : SlotState} {kind value : UInt8}
    (encoded : state.encode = some (kind, value)) (directory : Directory) :
    (AglOtaStorage.backend target capacity).perform (.writeState state) directory =
      some (.ok (), directory.put .state [kind, value]) := by
  apply Device.serve_performs
  simp only [AglOtaStorage.perform, AglOtaStorage.writeState, encoded]
  apply (Device.run_reply [] (create_performs directory .state)).trans
  apply (Device.run_reply [] (write_performs directory .state [kind, value])).trans
  rfl

/-- The image of a slot after a write to its front, if its file is missing or as
long as the slot. -/
def patched (capacity : Nat) (data : List UInt8) : Option (List UInt8) → Option (List UInt8)
  | none => some (overwrite (List.replicate capacity 0) 0 data)
  | some contents =>
    if capacity ≤ contents.length then some (overwrite (contents.take capacity) 0 data) else none

/-- The image of a slot before a write, if its file is missing or as long as the slot. -/
def imageOf (capacity : Nat) : Option (List UInt8) → Option (Buffer UInt8 capacity)
  | none => some (.fill capacity 0)
  | some contents =>
    if enough : capacity ≤ contents.length then some ⟨contents.take capacity, List.length_take_of_le enough⟩ else none

theorem patched_imageOf (data : List UInt8) (contents : Option (List UInt8)) :
    patched capacity data contents = (imageOf capacity contents).map fun buf => overwrite buf.elements 0 data := by
  cases contents with
  | none => rfl
  | some contents =>
    simp only [patched, imageOf]
    split
    · rfl
    · rfl

def patch (target : Target) (slot : UInt8) (buf : Buffer UInt8 capacity) (offset : Nat) (data : List UInt8) : Agl Unit := do
  let last ← AglOtaStorage.checked (target.add offset data.length)
  if last > capacity then AglOtaStorage.fail .storage
  else do
    let buf ← AglOtaStorage.checked (buf.copy offset data)
    AglOtaStorage.propagate (← AglOtaStorage.ask (.fileCreate (.slot slot)))
    AglOtaStorage.propagate (← AglOtaStorage.ask (.writeAll (.slot slot) buf.elements))

def rewriting (slot : UInt8) (buf : Buffer UInt8 capacity) : Agl Unit := do
  AglOtaStorage.propagate (← AglOtaStorage.ask (.fileCreate (.slot slot)))
  AglOtaStorage.propagate (← AglOtaStorage.ask (.writeAll (.slot slot) buf.elements))

theorem patch_rewrites {offset : Nat} {data : List UInt8} (sum : target.add offset data.length = some (offset + data.length))
    (fits : offset + data.length ≤ capacity) (slot : UInt8) (buf : Buffer UInt8 capacity) :
    ∃ copied : Buffer UInt8 capacity, copied.elements = overwrite buf.elements offset data ∧
      patch target slot buf offset data = rewriting slot copied := by
  obtain ⟨copied, copies, elements⟩ := buf.copy_eq fits
  refine ⟨copied, elements, ?_⟩
  simp only [patch, sum]
  apply (if_neg (Nat.not_lt.mpr fits)).trans
  rw [copies]
  rfl

private theorem patch_runs {offset : Nat} {data : List UInt8} (sum : target.add offset data.length = some (offset + data.length))
    (fits : offset + data.length ≤ capacity) (slot : UInt8) (buf : Buffer UInt8 capacity) (directory : Directory) :
    Directory.device.run ((patch target slot buf offset data).run.bind fun result => .pure (returned result)) [] directory =
      (some (some (.ok ())), directory.put (.slot slot) (overwrite buf.elements offset data)) := by
  obtain ⟨copied, elements, rewrites⟩ := patch_rewrites sum fits slot buf
  rw [rewrites, ← elements]
  apply (Device.run_reply [] (create_performs directory (.slot slot))).trans
  apply (Device.run_reply [] (write_performs directory (.slot slot) copied.elements)).trans
  rfl

/-- Once the image has been read, what is left of a slot write is to patch it. -/
theorem writeSlot_patches (target : Target) {slot : UInt8} {directory : Directory} {buf : Buffer UInt8 capacity}
    (image : imageOf capacity (directory (.slot slot)) = some buf) (offset : Nat) (data : List UInt8) :
    Directory.device.run (AglOtaStorage.perform target capacity (.writeSlot slot offset data)) [] directory =
      Directory.device.run ((patch target slot buf offset data).run.bind fun result => .pure (returned result)) [] directory := by
  have asked := exists_performs directory (.slot slot)
  cases held : directory (.slot slot) with
  | none =>
    rw [held] at asked image
    cases image
    exact Device.run_reply [] asked
  | some contents =>
    rw [held] at asked image
    simp only [imageOf] at image
    split at image
    next enough =>
      cases image
      have read := read_performs capacity held
      rw [Directory.readFront, dif_pos enough] at read
      apply (Device.run_reply [] asked).trans
      apply (Device.run_reply [] (open_performs held)).trans
      exact Device.run_reply [] read
    next => cases image

theorem writeSlot_overwrites {offset : Nat} {data : List UInt8}
    (sum : target.add offset data.length = some (offset + data.length)) (fits : offset + data.length ≤ capacity)
    {slot : UInt8} {directory : Directory} {buf : Buffer UInt8 capacity}
    (image : imageOf capacity (directory (.slot slot)) = some buf) :
    (AglOtaStorage.backend target capacity).perform (.writeSlot slot offset data) directory =
      some (.ok (), directory.put (.slot slot) (overwrite buf.elements offset data)) := by
  apply Device.serve_performs
  exact (writeSlot_patches target image offset data).trans (patch_runs sum fits slot buf directory)

theorem writeSlot_performs (target : Target) {data : List UInt8} (fits : data.length ≤ capacity)
    (short : data.length ≤ otaMaxPayload) {slot : UInt8} {directory : Directory} {image : List UInt8}
    (done : patched capacity data (directory (.slot slot)) = some image) :
    (AglOtaStorage.backend target capacity).perform (.writeSlot slot 0 data) directory =
      some (.ok (), directory.put (.slot slot) image) := by
  have sum := payload_sum target short
  rw [patched_imageOf] at done
  obtain ⟨buf, held, rfl⟩ := Option.map_eq_some_iff.mp done
  exact writeSlot_overwrites ((Nat.zero_add _).symm ▸ sum) ((Nat.zero_add _).symm ▸ fits) held

theorem readSlot_unwritten {slot : UInt8} (missing : directory (.slot slot) = none) (offset length : Nat) :
    Directory.device.run (AglOtaStorage.readSlot slot offset length) [] directory =
      (some (.ok (.fill length 0)), directory) := by
  have asked := exists_performs directory (.slot slot)
  rw [missing] at asked
  exact Device.run_reply [] asked

theorem readSlot_written {slot : UInt8} {contents : List UInt8} (held : directory (.slot slot) = some contents) (offset : Nat)
    {length : Nat} (enough : length ≤ contents.length) :
    Directory.device.run (AglOtaStorage.readSlot slot offset length) [] directory =
      (some (.ok ⟨contents.take length, List.length_take_of_le enough⟩), directory) := by
  have asked := exists_performs directory (.slot slot)
  have read := read_performs length held
  rw [held] at asked
  rw [Directory.readFront, dif_pos enough] at read
  apply (Device.run_reply [] asked).trans
  apply (Device.run_reply [] (open_performs held)).trans
  exact Device.run_reply [] read

/-- The file operations that leave a file as it is. -/
def Spares (path : AglPath) : FileCall → Prop
  | .fileCreate other => other ≠ path
  | .writeAll other _ => other ≠ path
  | _ => True

theorem spares_keeps {path : AglPath} {call : FileCall} (spares : Spares path call) (fault : FileFault)
    (directory : Directory) : (Directory.device.perform fault directory call).2 path = directory path := by
  cases call with
  | pathExists => rfl
  | fileOpen => rfl
  | readExact => rfl
  | fileCreate other =>
    have kept := put_other directory [] (Ne.symm spares)
    match fault with
    | .none => exact kept
    | .cut 0 => rfl
    | .cut (_ + 1) => exact kept
  | writeAll other data =>
    cases fault with
    | none => exact put_other directory _ (Ne.symm spares)
    | cut reached => exact put_other directory _ (Ne.symm spares)

/-- A slot write either stops before it changes a file or rewrites the image. -/
theorem patch_cases (target : Target) (slot : UInt8) (buf : Buffer UInt8 capacity) (offset : Nat) (data : List UInt8) :
    (∃ failure : Failure, patch target slot buf offset data = throw failure) ∨
      ∃ copied : Buffer UInt8 capacity, patch target slot buf offset data = rewriting slot copied := by
  simp only [patch]
  cases target.add offset data.length with
  | none => exact .inl ⟨.panic, rfl⟩
  | some last =>
    by_cases beyond : last > capacity
    · exact .inl ⟨.error .storage, if_pos beyond⟩
    · cases buf.copy offset data with
      | none => exact .inl ⟨.panic, if_neg beyond⟩
      | some copied => exact .inr ⟨copied, if_neg beyond⟩

theorem readState_spares (path : AglPath) : (AglOtaStorage.perform target capacity .readState).Makes (Spares path) := by
  apply And.intro trivial
  intro present
  cases present with
  | false => trivial
  | true =>
    apply And.intro trivial
    intro opened
    cases opened with
    | error => trivial
    | ok =>
      apply And.intro trivial
      intro bytes
      cases bytes with
      | error => trivial
      | ok bytes =>
        change Program.Makes (Spares path) (Program.bind (decoded (SlotState.decode (bytes.get 0) (bytes.get 1))) _)
        cases SlotState.decode (bytes.get 0) (bytes.get 1) with
        | none => trivial
        | some => trivial

theorem writeState_spares {path : AglPath} (other : path ≠ .state) (state : SlotState) :
    (AglOtaStorage.perform target capacity (.writeState state)).Makes (Spares path) := by
  simp only [AglOtaStorage.perform, AglOtaStorage.writeState]
  cases state.encode with
  | none => trivial
  | some bytes =>
    apply And.intro other.symm
    intro created
    cases created with
    | error => trivial
    | ok =>
      apply And.intro other.symm
      intro written
      cases written with
      | error => trivial
      | ok => trivial

private theorem patch_spares {path : AglPath} {slot : UInt8} (other : path ≠ .slot slot) (buf : Buffer UInt8 capacity)
    (offset : Nat) (data : List UInt8) :
    ((patch target slot buf offset data).run.bind fun result => .pure (returned result)).Makes (Spares path) := by
  rcases patch_cases target slot buf offset data with ⟨failure, stops⟩ | ⟨copied, rewrites⟩
  · rw [stops]
    trivial
  · rw [rewrites]
    apply And.intro other.symm
    intro created
    cases created with
    | error => trivial
    | ok =>
      apply And.intro other.symm
      intro written
      cases written with
      | error => trivial
      | ok => trivial

theorem writeSlot_spares {path : AglPath} {slot : UInt8} (other : path ≠ .slot slot) (offset : Nat) (data : List UInt8) :
    (AglOtaStorage.perform target capacity (.writeSlot slot offset data)).Makes (Spares path) := by
  apply And.intro trivial
  intro present
  cases present with
  | false => exact patch_spares other (.fill capacity 0) offset data
  | true =>
    apply And.intro trivial
    intro opened
    cases opened with
    | error => trivial
    | ok =>
      apply And.intro trivial
      intro contents
      cases contents with
      | error => trivial
      | ok buf => exact patch_spares other buf offset data

/-- A slot file that is too short is not written. -/
theorem writeSlot_refuses (target : Target) (offset : Nat) (data : List UInt8) {slot : UInt8} {directory : Directory}
    {contents : List UInt8} (held : directory (.slot slot) = some contents) (torn : contents.length < capacity) :
    (AglOtaStorage.backend target capacity).perform (.writeSlot slot offset data) directory =
      some (.error .storage, directory) := by
  have asked := exists_performs directory (.slot slot)
  have read := read_performs capacity held
  rw [held] at asked
  rw [Directory.readFront, dif_neg (Nat.not_le.mpr torn)] at read
  apply Device.serve_performs
  simp only [AglOtaStorage.perform, AglOtaStorage.writeSlot]
  apply (Device.run_reply [] asked).trans
  apply (Device.run_reply [] (open_performs held)).trans
  apply (Device.run_reply [] read).trans
  rfl

theorem writeSlot_answers (target : Target) {data : List UInt8} (fits : data.length ≤ capacity)
    (short : data.length ≤ otaMaxPayload) (slot : UInt8) (directory : Directory) :
    ∃ reply after, (AglOtaStorage.backend target capacity).perform (.writeSlot slot 0 data) directory = some (reply, after) ∧
      ∀ other, other ≠ .slot slot → after other = directory other := by
  cases done : patched capacity data (directory (.slot slot)) with
  | some image => exact ⟨_, _, writeSlot_performs target fits short done, fun other => put_other directory image⟩
  | none =>
    cases held : directory (.slot slot) with
    | none =>
      rw [held] at done
      cases done
    | some contents =>
      rw [held, patched] at done
      split at done
      next => cases done
      next torn => exact ⟨_, _, writeSlot_refuses target 0 data held (Nat.not_le.mp torn), fun _ _ => rfl⟩

end TptChassis.Proofs.AglFiles
