import TptChassis.Proofs.UdsSecurity

/-! The seed/key exchange. The server keeps no trace of the seeds it has given
out, so the key alone unlocks it; the exchange is complete only as far as the
tester keeps to its order. -/

namespace TptChassis.Proofs.UdsExchange
open Uds UdsEffects UdsSecurity Slices Machine

variable {D : Type}

def Seeds (step : ServerStep D) : Prop :=
  ∃ params response written accesses, step.input = .handle (0x27 :: 0x01 :: params) response ∧
    step.output = .handled (some 3) written accesses

/-- A requestSeed was answered and after it a matching key accepted, both since
the server was last locked. -/
def Exchanged (past : List (ServerStep D)) : Prop :=
  Since (fun step earlier => Unlocks step ∧ Since (fun step _ => Seeds step) Locks earlier) Locks past

/-- The security level in every state of the run is justified by an exchange. -/
def Justified [UdsDataProvider D] (data : D) (past : List (ServerStep D)) : Prop :=
  ∀ earlier server, earlier <:+ past → (machine D).Reaches (UdsServer.new data) earlier server →
    server.security = .unlocked → Exchanged earlier

def AsksSeed (step : ServerStep D) : Prop := ∃ params response, step.input = .handle (0x27 :: 0x01 :: params) response

def SendsKey (step : ServerStep D) : Prop :=
  ∃ params response, step.input = .handle (0x27 :: 0x02 :: 0x55 :: params) response

/-- A reset is requested, or the last tick of the liveness window comes. -/
def Relocks (step : ServerStep D) : Prop :=
  (∃ params response, step.input = .handle (0x11 :: 0x01 :: params) response) ∨
    (step.input = .tick ∧ ∃ left, step.before.testerPresentPending = some left ∧ left.toNat ≤ 1)

/-- The tester asks for a seed before it sends the key to a locked server. -/
def Orderly (past : List (ServerStep D)) : Prop :=
  ∀ key earlier, (key :: earlier) <:+ past → SendsKey key → key.before.security = .locked →
    Since (fun step _ => AsksSeed step) Relocks earlier

variable [UdsDataProvider D]

section
variable {server after : UdsServer D} {event : Event} {outcome : Outcome}

private theorem handled_responds {request response bytes : List UInt8} {next : UdsServer D}
    (stores : server.handle request response = next.respond response bytes)
    (happened : (machine D).step server (.handle request response) = some (outcome, after)) :
    ∃ written, outcome = .handled (some bytes.length) written [] := by
  obtain ⟨handled, done, same⟩ := Option.map_eq_some_iff.mp happened
  obtain ⟨written, _, rfl⟩ := respond_some (stores.symm.trans done)
  exact ⟨written, (Prod.mk.inj same).1.symm⟩

theorem seeds_iff (happened : (machine D).step server event = some (outcome, after)) :
    Seeds ⟨server, event, outcome, after⟩ ↔ AsksSeed ⟨server, event, outcome, after⟩ := by
  constructor
  · intro given
    obtain ⟨params, response, _, _, asked, _⟩ := given
    exact ⟨params, response, asked⟩
  · intro given
    obtain ⟨params, response, asked⟩ := given
    cases asked
    obtain ⟨written, rfl⟩ := @handled_responds D _ _ _ _ _ response [0x67, 0x01, 0xAA] server rfl happened
    exact ⟨params, response, written, [], rfl, rfl⟩

theorem unlocks_iff (happened : (machine D).step server event = some (outcome, after)) :
    Unlocks ⟨server, event, outcome, after⟩ ↔ SendsKey ⟨server, event, outcome, after⟩ := by
  constructor
  · intro given
    obtain ⟨params, response, _, _, asked, _⟩ := given
    exact ⟨params, response, asked⟩
  · intro given
    obtain ⟨params, response, asked⟩ := given
    cases asked
    obtain ⟨written, rfl⟩ := @handled_responds D _ _ _ _ _ response [0x67, 0x02]
      { server with security := .unlocked } rfl happened
    exact ⟨params, response, written, [], rfl, rfl⟩

theorem locks_iff (happened : (machine D).step server event = some (outcome, after)) :
    Locks ⟨server, event, outcome, after⟩ ↔ Relocks ⟨server, event, outcome, after⟩ := by
  constructor
  · intro given
    rcases given with ⟨params, response, _, _, asked, _⟩ | ⟨asked, ended⟩
    · exact .inl ⟨params, response, asked⟩
    · cases asked
      cases ended
      have disarmed := Outcome.ticked.inj (Prod.mk.inj (Option.some.inj happened)).1
      exact .inr ⟨rfl, (tick_iff server).mp disarmed⟩
  · intro given
    rcases given with ⟨params, response, asked⟩ | ⟨asked, left, opened, last⟩
    · cases asked
      obtain ⟨written, rfl⟩ := @handled_responds D _ _ _ _ _ response [0x51, 0x01]
        { server with session := .default, security := .locked } rfl happened
      exact .inl ⟨params, response, written, [], rfl, rfl⟩
    · cases asked
      cases happened
      exact .inr ⟨rfl, congrArg Outcome.ticked ((tick_iff server).mpr ⟨left, opened, last⟩)⟩

end

section
variable {data : D} {past : List (ServerStep D)} {server : UdsServer D}

/-- Along a run every seed asked for is given, and the locking events are known
before they happen. -/
theorem reaches_seeded_iff (reached : (machine D).Reaches (UdsServer.new data) past server) :
    Since (fun step _ => AsksSeed step) Relocks past ↔ Since (fun step _ => Seeds step) Locks past := by
  constructor
  · intro asked
    apply asked.imp
    · exact fun step earlier inside => (seeds_iff (reached.suffix inside).2).mpr
    · intro step member
      obtain ⟨_, _, happened⟩ := reached.called member
      exact (locks_iff happened).mp
  · intro seeded
    apply seeded.imp
    · exact fun step earlier inside => (seeds_iff (reached.suffix inside).2).mp
    · intro step member
      obtain ⟨_, _, happened⟩ := reached.called member
      exact (locks_iff happened).mpr

omit [UdsDataProvider D] in
theorem Orderly.earlier {step : ServerStep D} (orderly : Orderly (step :: past)) : Orderly past :=
  fun key before inside => orderly key before (inside.trans (List.suffix_cons _ past))

theorem orderly_exchanged (reached : (machine D).Reaches (UdsServer.new data) past server) (orderly : Orderly past)
    (unlocked : server.security = .unlocked) : Exchanged past := by
  induction reached with
  | start => cases unlocked
  | @call past server event outcome after reached happened ih =>
    cases step_secures happened with
    | unlocks sent open' =>
      by_cases before : server.security = .locked
      · have asked := orderly _ _ (List.suffix_refl _) ((unlocks_iff happened).mp sent) before
        exact .inl ⟨sent, (reaches_seeded_iff reached).mp asked⟩
      · exact .inr ⟨open', ih orderly.earlier (unlocked_of_not before)⟩
    | locks _ _ locked => cases locked.symm.trans unlocked
    | keeps _ open' same => exact .inr ⟨open', ih orderly.earlier (same.symm.trans unlocked)⟩

/-- Whether every unlocked state of a run is justified by a complete exchange is
up to the tester: it is exactly when each key that finds the server locked comes
after a request for a seed, with nothing in between that locks the server. -/
theorem justified_iff (reached : (machine D).Reaches (UdsServer.new data) past server) :
    Justified data past ↔ Orderly past := by
  constructor
  · intro justified key earlier inside sends locked
    obtain ⟨before, happened⟩ := reached.suffix inside
    have after := Machine.Reaches.call before happened
    have sent := (unlocks_iff happened).mpr sends
    rcases justified _ _ inside after ((reaches_unlocked_iff after).mpr (.inl sent)) with ⟨_, seeded⟩ | ⟨_, exchanged⟩
    · exact (reaches_seeded_iff before).mpr seeded
    · have accepted := exchanged.imp (fun _ _ _ event => event.1) (fun _ _ => id)
      cases locked.symm.trans ((reaches_unlocked_iff before).mpr accepted)
  · intro orderly earlier state inside reached'
    exact orderly_exchanged reached' fun key before nested => orderly key before (nested.trans inside)

end

theorem justified_after_seed :
    ∃ (past : List (ServerStep MockData)) (server : UdsServer MockData),
      (machine MockData).Reaches (UdsServer.new ⟨.fill 32 0⟩) past server ∧ past.length = 2 ∧
      server.security = .unlocked ∧ Justified ⟨.fill 32 0⟩ past := by
  have seeded : (machine MockData).step (UdsServer.new ⟨.fill 32 0⟩) (.handle [0x27, 0x01] (List.replicate 10 0)) =
    some (_, _) := rfl
  have sent : (machine MockData).step (UdsServer.new ⟨.fill 32 0⟩) (.handle [0x27, 0x02, 0x55] (List.replicate 10 0)) =
    some (_, _) := rfl
  have reached := Machine.Reaches.call (.call .start seeded) sent
  refine ⟨_, _, reached, rfl, rfl, (justified_iff reached).mpr ?_⟩
  intro key earlier inside sends _
  rcases List.suffix_cons_iff.mp inside with same | inside
  · cases same
    exact .inl ⟨_, _, rfl⟩
  · rcases List.suffix_cons_iff.mp inside with same | inside
    · cases same
      obtain ⟨_, _, asked⟩ := sends
      cases asked
    · cases List.suffix_nil.mp inside

/-- The key alone unlocks a new server. -/
theorem key_without_seed :
    ¬ ∀ (D : Type) [UdsDataProvider D] (data : D) past server, (machine D).Reaches (UdsServer.new data) past server →
        server.security = .unlocked → Exchanged past := by
  intro claimed
  have sent : (machine MockData).step (UdsServer.new ⟨.fill 32 0⟩) (.handle [0x27, 0x02, 0x55] (List.replicate 10 0)) =
    some (_, _) := rfl
  rcases claimed MockData ⟨.fill 32 0⟩ _ _ (.call .start sent) rfl with ⟨_, seeded⟩ | ⟨_, earlier⟩
  · exact seeded
  · exact earlier

end TptChassis.Proofs.UdsExchange
