import TptChassis.Proofs.UdsEffects

/-! Who may write data or read reserved identifiers. The security level is a
summary of the history: it is unlocked only after a correct key, and until the
next reset or watchdog timeout. -/

namespace TptChassis.Proofs.UdsSecurity
open Uds UdsEffects Slices

variable {D : Type}

abbrev ServerStep (D : Type) := Step (UdsServer D) Event Outcome

/-- A SecurityAccess request with the correct key was accepted. The positive
response has two bytes, a negative one three. -/
def Unlocks (step : ServerStep D) : Prop :=
  ∃ params response written accesses, step.input = .handle (0x27 :: 0x02 :: 0x55 :: params) response ∧
    step.output = .handled (some 2) written accesses

/-- An EcuReset request was accepted, or the watchdog disarmed the server. -/
def Locks (step : ServerStep D) : Prop :=
  (∃ params response written accesses, step.input = .handle (0x11 :: 0x01 :: params) response ∧
    step.output = .handled (some 2) written accesses) ∨
  (step.input = .tick ∧ step.output = .ticked true)

/-- The correct key was sent, and since it was last sent nothing locked the
server. Histories list the latest step first. -/
def Authorised (past : List (ServerStep D)) : Prop :=
  ∃ since unlock earlier, past = since ++ unlock :: earlier ∧ Unlocks unlock ∧
    (∀ step ∈ since, ¬ Unlocks step) ∧ ∀ step ∈ since, ¬ Locks step

/-- Access that needs authorisation: any write, and reads of reserved identifiers. -/
def Protected : Access → Prop
  | .didRead did => 0xF100 ≤ did ∧ did ≤ 0xF1FF
  | .didWrite .. => True

theorem Authorised.later {past : List (ServerStep D)} (authorised : Authorised past) {step : ServerStep D}
    (open' : ¬ Locks step) : Authorised (step :: past) := by
  by_cases unlocks : Unlocks step
  · exact ⟨[], step, past, rfl, unlocks, List.forall_mem_nil _, List.forall_mem_nil _⟩
  · obtain ⟨since, unlock, earlier, rfl, sent, latest, unlocked⟩ := authorised
    exact ⟨step :: since, unlock, earlier, rfl, sent, List.forall_mem_cons.mpr ⟨unlocks, latest⟩,
      List.forall_mem_cons.mpr ⟨open', unlocked⟩⟩

theorem refuse_result (server : UdsServer D) (response : List UInt8) (sid : UInt8) (nrc : UdsNrc) :
    (server.refuse response sid nrc).result ≠ some 2 := by
  unfold UdsServer.refuse
  intro same
  split at same
  · cases same
  · cases same

/-- What one step does to the security level. -/
inductive Secures (step : ServerStep D) : Prop where
  | unlocks (sent : Unlocks step) (open' : ¬ Locks step) (after : step.after.security = .unlocked)
  | locks (unsent : ¬ Unlocks step) (ended : Locks step) (after : step.after.security = .locked)
  | keeps (unsent : ¬ Unlocks step) (open' : ¬ Locks step) (after : step.after.security = step.before.security)

section
variable {server after : UdsServer D} {request response : List UInt8} {handled : Handled D}

private abbrev handling (server : UdsServer D) (request response : List UInt8) (handled : Handled D) : ServerStep D :=
  ⟨server, .handle request response, .handled handled.result handled.response handled.accesses, handled.server⟩

private theorem handling_keeps (other : handled.result = some 2 → request.head? ≠ some 0x27 ∧ request.head? ≠ some 0x11)
    (after : handled.server.security = server.security) : Secures (handling server request response handled) := by
  refine .keeps ?_ ?_ after
  · intro given
    obtain ⟨_, _, _, _, asked, answered⟩ := given
    cases asked
    exact absurd rfl (other (Outcome.handled.inj answered).1).1
  · intro given
    rcases given with ⟨_, _, _, _, asked, answered⟩ | ⟨asked, _⟩
    · cases asked
      exact absurd rfl (other (Outcome.handled.inj answered).1).2
    · cases asked

private theorem tick_keeps (after' : after.security = server.security) :
    Secures ⟨server, .tick, .ticked false, after⟩ := by
  refine .keeps ?_ ?_ after'
  · intro given
    obtain ⟨_, _, _, _, asked, _⟩ := given
    cases asked
  · intro given
    rcases given with ⟨_, _, _, _, asked, _⟩ | ⟨_, ended⟩
    · cases asked
    · cases ended

end

variable [UdsDataProvider D]

private theorem handles_secures {server : UdsServer D} {request response : List UInt8} {handled : Handled D}
    (handles : Handles server request response handled) : Secures (handling server request response handled) := by
  cases handles with
  | passed => exact handling_keeps (fun accepted => by cases accepted) rfl
  | refused =>
    exact handling_keeps (fun accepted => absurd accepted (refuse_result server response _ _)) (by rw [refuse_server])
  | held asked => exact handling_keeps (fun _ => by rw [asked]; simp) rfl
  | entered asked => exact handling_keeps (fun _ => by rw [asked]; simp) rfl
  | reset asked =>
    subst asked
    refine .locks ?_ (.inl ⟨_, _, _, _, rfl, rfl⟩) rfl
    intro given
    obtain ⟨_, _, _, _, asked, _⟩ := given
    cases asked
  | seeded => exact handling_keeps (fun accepted => by cases accepted) rfl
  | unlocked asked =>
    subst asked
    refine .unlocks ⟨_, _, _, _, rfl, rfl⟩ ?_ rfl
    intro given
    rcases given with ⟨_, _, _, _, asked, _⟩ | ⟨asked, _⟩
    · cases asked
    · cases asked
  | read asked => exact handling_keeps (fun _ => by rw [asked]; simp) rfl
  | written asked => exact handling_keeps (fun _ => by rw [asked]; simp) rfl
  | @rejected _ _ _ data asked =>
    exact handling_keeps (fun _ => by rw [asked]; simp) (by rw [rejected_server])

theorem step_secures {server after : UdsServer D} {event : Event} {outcome : Outcome}
    (happened : (machine D).step server event = some (outcome, after)) : Secures ⟨server, event, outcome, after⟩ := by
  rcases event_cases happened with ⟨request, response, handled, rfl, handles, rfl, rfl⟩ | ⟨disarmed, rfl, rfl, ticks⟩
  · exact handles_secures handles
  · cases ticks with
    | ends =>
      refine .locks ?_ (.inr ⟨rfl, rfl⟩) rfl
      intro given
      obtain ⟨_, _, _, _, asked, _⟩ := given
      cases asked
    | shortens => exact tick_keeps rfl
    | idle => exact tick_keeps rfl

/-- An unlocked server has been authorised. -/
def Summarises (past : List (ServerStep D)) (server : UdsServer D) : Prop :=
  server.security = .unlocked → Authorised past

/-- The security level tells whether a key was accepted since the server was last locked. -/
theorem reaches_unlocked_iff {data : D} {past : List (ServerStep D)} {server : UdsServer D}
    (reached : (machine D).Reaches (UdsServer.new data) past server) :
    server.security = .unlocked ↔ Machine.Since (fun step _ => Unlocks step) Locks past := by
  induction reached with
  | start =>
    constructor
    · intro unlocked
      cases unlocked
    · exact False.elim
  | call _ happened ih =>
    rw [Machine.Since]
    cases step_secures happened with
    | unlocks sent _ unlocked => exact ⟨fun _ => .inl sent, fun _ => unlocked⟩
    | locks unsent ended locked =>
      constructor
      · intro unlocked
        cases locked.symm.trans unlocked
      · intro given
        rcases given with sent | ⟨open', _⟩
        · exact absurd sent unsent
        · exact absurd ended open'
    | keeps unsent open' same =>
      constructor
      · exact fun unlocked => .inr ⟨open', ih.mp (same.symm.trans unlocked)⟩
      · exact fun either => same.trans (ih.mpr (either.resolve_left unsent).2)

omit [UdsDataProvider D] in
theorem since_authorised {past : List (ServerStep D)} (since : Machine.Since (fun step _ => Unlocks step) Locks past) :
    Authorised past := by
  induction past with
  | nil => exact since.elim
  | cons step past ih =>
    rcases since with sent | ⟨open', before⟩
    · exact ⟨[], step, past, rfl, sent, List.forall_mem_nil _, List.forall_mem_nil _⟩
    · exact (ih before).later open'

theorem reaches_summarises {data : D} {past : List (ServerStep D)} {server : UdsServer D}
    (reached : (machine D).Reaches (UdsServer.new data) past server) : Summarises past server :=
  fun unlocked => since_authorised ((reaches_unlocked_iff reached).mp unlocked)

theorem handles_protected {server : UdsServer D} {request response : List UInt8} {handled : Handled D}
    (handles : Handles server request response handled) {access : Access} (made : access ∈ handled.accesses)
    (guarded : Protected access) : server.security = .unlocked := by
  cases handles with
  | refused => cases refuse_accesses server response _ _ ▸ made
  | read asked length short allowed =>
    cases List.mem_singleton.mp made
    cases level : server.security with
    | locked => cases (allowed level).symm.trans (decide_eq_true guarded)
    | unlocked => rfl
  | written _ allowed => exact allowed
  | rejected _ allowed => exact allowed
  | _ => cases made

/-- From a new server on, data is written and reserved identifiers are read only
with authorisation, whatever is requested; and every request is answered. -/
theorem access_authorised {data : D} {past : List (ServerStep D)} {server : UdsServer D}
    (reached : (machine D).Reaches (UdsServer.new data) past server) (request response : List UInt8)
    (room : 10 ≤ response.length) :
    ∃ handled, server.handle request response = some handled ∧
      ∀ access ∈ handled.accesses, Protected access → Authorised past := by
  obtain ⟨handled, done⟩ := Option.isSome_iff_exists.mp (handle_progress server request room)
  refine ⟨handled, done, ?_⟩
  intro access made guarded
  exact reaches_summarises reached (handles_protected (handle_cases done) made guarded)

theorem access_authorised_after_key :
    ∃ (past : List (ServerStep MockData)) (server : UdsServer MockData) (handled : Handled MockData),
      (machine MockData).Reaches (UdsServer.new ⟨.fill 32 0⟩) past server ∧
      server.handle [0x2E, 0x00, 0x01, 0xAB] (List.replicate 10 0) = some handled ∧
      handled.accesses = [.didWrite 0x0001 [0xAB]] ∧ Authorised past := by
  have sent : (machine MockData).step (UdsServer.new ⟨.fill 32 0⟩) (.handle [0x27, 0x02, 0x55] (List.replicate 10 0)) =
    some (.handled (some 2) _ _, _) := rfl
  have reached := Machine.Reaches.call .start sent
  obtain ⟨handled, done, authorised⟩ :=
    access_authorised reached [0x2E, 0x00, 0x01, 0xAB] (List.replicate 10 0) (by decide)
  have written : handled.accesses = [.didWrite 0x0001 [0xAB]] := by
    cases done
    rfl
  have made : Access.didWrite 0x0001 [0xAB] ∈ handled.accesses := written ▸ List.mem_singleton_self _
  exact ⟨_, _, handled, reached, done, written, authorised _ made trivial⟩

end TptChassis.Proofs.UdsSecurity
