import TptChassis.Proofs.FlashRefinement
import TptChassis.Proofs.OtaRecovery

/-! Updates over the flash that lose power. A history of an engine over the flash is
mirrored by one over the storage in memory, so what holds of every state that the one
can reach holds of the other. -/

namespace TptChassis.Proofs.FlashRecovery
open Ota OtaEffects OtaJournal OtaRollback OtaRecovery FlashRefinement Slices Words

variable {φ ε : Type} {capacity len : Nat}

abbrev FlashStep (φ ε : Type) (len : Nat) := Step φ (FlashInput ε len) (Option (Except OtaError EngineReply))

section
variable (view : FlashView φ capacity)

def imageOf (state : φ) (slot : UInt8) : List UInt8 :=
  (((view.slots state).elements[slot.toNat]?).map Buffer.elements).getD []

/-- What the two bytes of the journal say, if anything. -/
def journalOf (state : φ) : Option SlotState := SlotState.decode (view.journal state).1 (view.journal state).2

/-- Only an update of the slot not in use is staged, and only while none is under way. -/
def StagesOther (step : FlashStep φ ε len) : Prop :=
  ∀ package payload signature, step.input.call = .stage package payload signature →
    (journalOf view step.before = some .activeSlot0 ∧ package.slot = 1) ∨
      (journalOf view step.before = some .activeSlot1 ∧ package.slot = 0)

/-- The image committed last, by a commit that has changed the journal of the flash. -/
def flashCommitted (start : φ) : List (FlashStep φ ε len) → Image
  | [] => ⟨0, imageOf view start 0⟩
  | step :: past =>
    match step.input.call, journalOf view step.before with
    | .commit, some (.testing active _) =>
      if journalOf view step.after = journalOf view step.before then flashCommitted start past
      else ⟨active, imageOf view step.after active⟩
    | _, _ => flashCommitted start past

end

variable {flash : Device φ FlashCall FlashCall.Reply ε} {view : FlashView φ capacity} {target : Target}
  {signer : SignatureScheme len}

theorem imageOf_holds {state : φ} {storage : MemStorage capacity} (holds : Holds view state storage) (slot : UInt8) :
    imageOf view state slot = storage.image slot := by
  rw [imageOf, holds.slots]
  rfl

theorem journalOf_holds {state : φ} {storage : MemStorage capacity} (holds : Holds view state storage) :
    journalOf view state = some storage.state := holds.journal

/-- The two histories call the same methods from the same slots and journals. -/
def Mirrored (view : FlashView φ capacity) (step : FlashStep φ ε len) (other : EngineStep capacity len) : Prop :=
  Machine.Mirrors (Holds view) FlashInput.call EngineInput.call step other

theorem stages_mirrored {step : FlashStep φ ε len} {other : EngineStep capacity len} (mirrors : Mirrored view step other)
    (stages : StagesOther view step) : StagesSettled other := by
  intro package payload signature staged
  rcases stages package payload signature (mirrors.asked.symm.trans staged) with ⟨settled, target⟩ | ⟨settled, target⟩
  · exact .inl ⟨Option.some.inj ((journalOf_holds mirrors.before).symm.trans settled), target⟩
  · exact .inr ⟨Option.some.inj ((journalOf_holds mirrors.before).symm.trans settled), target⟩

theorem disciplined_mirrored {past : List (FlashStep φ ε len)} {mirrored : List (EngineStep capacity len)}
    (mirrors : List.Forall₂ (Mirrored view) past mirrored) (disciplined : ∀ step ∈ past, StagesOther view step) :
    ∀ step ∈ mirrored, StagesSettled step := by
  induction mirrors with
  | nil => exact fun _ member => absurd member List.not_mem_nil
  | cons here _ ih =>
    obtain ⟨last, earlier⟩ := List.forall_mem_cons.mp disciplined
    exact List.forall_mem_cons.mpr ⟨stages_mirrored here last, ih earlier⟩

theorem committed_mirrored {start : φ} {storage : MemStorage capacity} {past : List (FlashStep φ ε len)}
    {mirrored : List (EngineStep capacity len)} (holds : Holds view start storage)
    (mirrors : List.Forall₂ (Mirrored view) past mirrored) :
    flashCommitted view start past = committedImage storage mirrored := by
  induction mirrors with
  | nil => rw [flashCommitted, committedImage, imageOf_holds holds]
  | @cons step other past mirrored here _ ih =>
    have before := journalOf_holds here.before
    have after := journalOf_holds here.after
    simp only [flashCommitted, committedImage, ← here.asked, before, after, Option.some.injEq, ih]
    cases other.input.call with
    | commit =>
      cases other.before.state with
      | testing active fallback => simp only [imageOf_holds here.after]
      | _ => rfl
    | _ => rfl

/-- A recovery from a resolved journal answers with the guarded image, and settles on it. -/
theorem recover_returns {before after : MemStorage capacity} {image : Image} {input : EngineInput len} {reply : EngineReply}
    (guarded : Guards before image) (resolved : Resolved image.slot before.state) (recover : input.call = .recover)
    (called : (engine signer capacity).step before input = some (some (.ok reply), after)) :
    reply = .slot image.slot ∧ after = { before with state := .settled image.slot } := by
  have decision : recovered before.state = .ok (image.slot, .settled image.slot) := by
    rcases resolved with settled | testing
    · rw [settled]
      exact recovered_settled guarded.named
    · rw [testing]
      exact recovered_testing guarded.named _
  obtain ⟨call, plan⟩ := input
  cases recover
  cases engine_cases called with
  | idle unfinished => exact absurd rfl (unfinished reply)
  | read same => cases same
  | torn same => cases same
  | staged same => cases same
  | moved moves decided answer =>
    cases moves
    cases decided.symm.trans decision
    rcases answer with lost | answered
    · cases lost
    · cases answered
      exact ⟨rfl, rfl⟩

/-- Of two recoveries that both return, the second answers with the guarded image. -/
theorem recoveries_return {storage last : MemStorage capacity} {image : Image} {inputs : List (EngineInput len)}
    {first second : EngineReply} (guarded : Guards storage image)
    (recover : inputs.map EngineInput.call = [.recover, .recover])
    (ran : (engine signer capacity).run storage inputs = some ([some (.ok first), some (.ok second)], last)) :
    second = .slot image.slot ∧ last.state = .settled image.slot ∧ last.image image.slot = image.bytes := by
  obtain ⟨input, rest, rfl, here, later⟩ := List.map_eq_cons_iff.mp recover
  obtain ⟨input', rest, rfl, here', nothing⟩ := List.map_eq_cons_iff.mp later
  cases List.map_eq_nil_iff.mp nothing
  obtain ⟨_, middle, _, called, ran, same⟩ := Machine.run_cases ran
  cases same
  obtain ⟨_, _, _, called', ended, same⟩ := Machine.run_cases ran
  cases same
  cases ended
  obtain ⟨call, plan⟩ := input
  cases here
  have resolved := (recover_resolves guarded called).1
  have away : ∀ package payload signature, (EngineCall.recover : EngineCall len) = .stage package payload signature →
      Accepts signer capacity package payload signature → package.slot.toNat < 2 → package.slot ≠ image.slot := nofun
  cases engine_keeps guarded away called with
  | commits commit => cases commit
  | refuses commit => cases commit
  | guards _ kept =>
    obtain ⟨answer, settles⟩ := recover_returns kept resolved here' called'
    rw [settles]
    exact ⟨answer, rfl, kept.intact⟩

theorem history_mirrored (documented : Documented flash view) {start state : φ} {storage : MemStorage capacity}
    {past : List (FlashStep φ ε len)} (holds : Holds view start storage)
    (reached : (flashEngine signer target flash).Reaches start past state) :
    ∃ mirrored last, (engine signer capacity).Reaches storage mirrored last ∧
      List.Forall₂ (Mirrored view) past mirrored ∧ Holds view state last := by
  refine reached.refines ?_ holds
  intro state storage input output next holds called
  obtain ⟨chosen, _, _, following, same, called', matched, kept⟩ := step_refines documented signer target input holds
  cases called.symm.trans called'
  exact ⟨chosen, following, same, matched, kept⟩

/-- An update over the flash cannot brick the vehicle. In every state that an engine
reaches, with C functions that fail and power that goes off anywhere, the image committed
last is intact in its slot, as long as updates are staged for the other slot and on a
settled journal. Of two recoveries that return, the second answers with that slot and
leaves the journal settled on it. -/
theorem flash_recoverable (documented : Documented flash view) {start state : φ} {past : List (FlashStep φ ε len)}
    (initial : journalOf view start = some .activeSlot0)
    (reached : (flashEngine signer target flash).Reaches start past state)
    (disciplined : ∀ step ∈ past, StagesOther view step) :
    imageOf view state (flashCommitted view start past).slot = (flashCommitted view start past).bytes ∧
      ∀ (plans : List ε × List ε) first second last,
        (flashEngine signer target flash).run state [⟨.recover, plans.1⟩, ⟨.recover, plans.2⟩] =
          some ([some (.ok first), some (.ok second)], last) →
        second = .slot (flashCommitted view start past).slot ∧
          journalOf view last = some (.settled (flashCommitted view start past).slot) ∧
          imageOf view last (flashCommitted view start past).slot = (flashCommitted view start past).bytes := by
  have begins : Holds view start ⟨view.slots start, .activeSlot0⟩ := ⟨rfl, initial⟩
  obtain ⟨mirrored, storage, reached', mirrors, holds⟩ := history_mirrored documented begins reached
  have guarded := reaches_guarded rfl reached' (disciplined_mirrored mirrors disciplined)
  rw [committed_mirrored begins mirrors, imageOf_holds holds]
  refine ⟨guarded.intact, ?_⟩
  intro plans first second last ran
  obtain ⟨chosen, _, _, _, same, ran', matched, ends⟩ :=
    Machine.run_refines FlashInput.call EngineInput.call [⟨.recover, plans.1⟩, ⟨.recover, plans.2⟩]
      (fun input _ _ holds => step_refines documented signer target input holds) state storage holds
  cases ran.symm.trans ran'
  obtain ⟨answer, journal, intact⟩ := recoveries_return guarded same matched
  rw [journalOf_holds ends, imageOf_holds ends]
  exact ⟨answer, congrArg some journal, intact⟩

/-- The power goes off while the first update is written to slot 1. -/
theorem flash_recoverable_after_cut :
    ∃ output state,
      (flashEngine ((⟨7⟩ : DemoSigner).scheme 4) ⟨4294967296, by decide⟩ (MemoryFlash.device 2)).step
          (.fill 2 (.fill 2 0), 0, 0) ⟨stageSigned ⟨7⟩ 4 ⟨1, 2⟩ [5, 6], [true, true, false]⟩ = some (output, state) ∧
      imageOf (MemoryFlash.contents 2) state 0 = [0, 0] ∧
      ∀ (plans : List Bool × List Bool) first second last,
        (flashEngine ((⟨7⟩ : DemoSigner).scheme 4) ⟨4294967296, by decide⟩ (MemoryFlash.device 2)).run state
            [⟨.recover, plans.1⟩, ⟨.recover, plans.2⟩] = some ([some (.ok first), some (.ok second)], last) →
        second = .slot 0 ∧ journalOf (MemoryFlash.contents 2) last = some .activeSlot0 ∧
          imageOf (MemoryFlash.contents 2) last 0 = [0, 0] := by
  have documented := MemoryFlash.documented 2
  have holds : Holds (MemoryFlash.contents 2) (.fill 2 (.fill 2 0), 0, 0) (MemStorage.new 2) := ⟨rfl, rfl⟩
  obtain ⟨_, output, state, _, _, called, _⟩ := step_refines documented ((⟨7⟩ : DemoSigner).scheme 4)
    ⟨4294967296, by decide⟩ ⟨stageSigned ⟨7⟩ 4 ⟨1, 2⟩ [5, 6], [true, true, false]⟩ holds
  refine ⟨output, state, called, flash_recoverable documented rfl (.call .start called) ?_⟩
  refine List.forall_mem_singleton.mpr ?_
  intro package payload signature staged
  cases staged
  exact .inl ⟨rfl, rfl⟩

end TptChassis.Proofs.FlashRecovery
