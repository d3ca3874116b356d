import TptChassis.Library.Interrupts

/-! Layers of programs. A call of one layer is carried out by a program of the
layer below, so a run of the upper layer is a run over the device at the bottom.
Without faults a layer is a component that answers every call at once. -/

/-- A component that answers every call at once, unless it panics. -/
structure Backend (σ : Type) (Call : Type) (Reply : Call → Type) where
  perform : (call : Call) → σ → Option (Reply call × σ)

namespace Program
variable {Call Lower : Type} {Reply : Call → Type} {LowerReply : Lower → Type} {α : Type}

/-- The program makes no other calls, whatever the replies. -/
def Makes (allowed : Call → Prop) : Program Call Reply α → Prop
  | .pure _ => True
  | .request call next => allowed call ∧ ∀ reply, (next reply).Makes allowed

def orStop {ρ : Type} (next : ρ → Program Call Reply (Option α)) : Option ρ → Program Call Reply (Option α)
  | none => .pure none
  | some reply => next reply

/-- Carries out every call by a program of the layer below. A call that panics
there ends the whole program. -/
def under (handler : (call : Call) → Program Lower LowerReply (Option (Reply call))) :
    Program Call Reply α → Program Lower LowerReply (Option α)
  | .pure result => .pure (some result)
  | .request call next => (handler call).bind (orStop fun reply => (next reply).under handler)

theorem bind_assoc {β γ : Type} (program : Program Call Reply α) (first : α → Program Call Reply β)
    (second : β → Program Call Reply γ) :
    (program.bind first).bind second = program.bind fun result => (first result).bind second := by
  induction program with
  | pure => rfl
  | request call next ih => exact congrArg (Program.request call) (funext ih)

theorem Makes.imp {allowed other : Call → Prop} {program : Program Call Reply α} (makes : program.Makes allowed)
    (implies : ∀ call, allowed call → other call) : program.Makes other := by
  induction program with
  | pure => exact trivial
  | request call next ih => exact ⟨implies call makes.1, fun reply => ih reply (makes.2 reply)⟩

end Program

namespace Device
variable {σ Call : Type} {Reply : Call → Type} {Fault α β : Type}

/-- The call in which the power goes off, and what befalls that call. -/
def lostIn (device : Device σ Call Reply Fault) : Program Call Reply α → List Fault → σ → Option (Call × Fault)
  | .pure _, _, _ => none
  | .request call next, plan, state =>
    match device.perform (plan.headD device.quiet) state call with
    | (none, _) => some (call, plan.headD device.quiet)
    | (some reply, after) => device.lostIn (next reply) plan.tail after

theorem lostIn_reply {device : Device σ Call Reply Fault} {call : Call} {next : Reply call → Program Call Reply α}
    (plan : List Fault) {state middle : σ} {reply : Reply call}
    (performed : device.perform (plan.headD device.quiet) state call = (some reply, middle)) :
    device.lostIn (.request call next) plan state = device.lostIn (next reply) plan.tail middle := by
  simp only [lostIn, performed]

theorem lostIn_lost {device : Device σ Call Reply Fault} {call : Call} {next : Reply call → Program Call Reply α}
    (plan : List Fault) {state after : σ}
    (performed : device.perform (plan.headD device.quiet) state call = (none, after)) :
    device.lostIn (.request call next) plan state = some (call, plan.headD device.quiet) := by
  simp only [lostIn, performed]

theorem lostIn_finished {device : Device σ Call Reply Fault} {program : Program Call Reply α} {plan : List Fault}
    {state after : σ} {result : α} (ran : device.run program plan state = (some result, after)) :
    device.lostIn program plan state = none := by
  induction program generalizing plan state with
  | pure => rfl
  | request call next ih =>
    rcases run_request ran with ⟨lost, _⟩ | ⟨reply, middle, performed, ran⟩
    · cases lost
    · rw [lostIn_reply plan performed]
      exact ih reply ran

/-- A run of two programs one after the other stops in the first, or goes on with
the second under the rest of the plan. -/
theorem run_bind (device : Device σ Call Reply Fault) (program : Program Call Reply α) (next : α → Program Call Reply β)
    (plan : List Fault) (state : σ) :
    (∃ after, device.run program plan state = (none, after) ∧
      device.run (program.bind next) plan state = (none, after) ∧
      device.lostIn (program.bind next) plan state = device.lostIn program plan state) ∨
    ∃ result after rest, device.run program plan state = (some result, after) ∧
      device.run (program.bind next) plan state = device.run (next result) rest after ∧
      device.lostIn (program.bind next) plan state = device.lostIn (next result) rest after ∧
      (plan = [] → rest = []) := by
  induction program generalizing plan state with
  | pure result => exact .inr ⟨result, state, plan, rfl, rfl, rfl, id⟩
  | request call following ih =>
    cases performed : device.perform (plan.headD device.quiet) state call with
    | mk reply after =>
      rw [Program.bind]
      cases reply with
      | none =>
        refine .inl ⟨after, run_lost plan performed, run_lost plan performed, ?_⟩
        rw [lostIn_lost plan performed, lostIn_lost plan performed]
      | some reply =>
        rw [run_reply plan performed, run_reply plan performed, lostIn_reply plan performed, lostIn_reply plan performed]
        rcases ih reply plan.tail after with lost | ⟨result, last, rest, ran, goes, loses, quiet⟩
        · exact .inl lost
        · exact .inr ⟨result, last, rest, ran, goes, loses, fun empty => quiet (congrArg List.tail empty)⟩

/-- How a program that begins with a call ends: there, or as it goes on from the reply. -/
theorem ends_request {device : Device σ Call Reply Fault} {call : Call} {next : Reply call → Program Call Reply α}
    {ending : σ → Option (Call × Fault) → Prop} (plan : List Fault) (state : σ)
    (lost : ∀ after, device.perform (plan.headD device.quiet) state call = (none, after) →
      ending after (some (call, plan.headD device.quiet)))
    (goes : ∀ reply after, device.perform (plan.headD device.quiet) state call = (some reply, after) →
      ending (device.run (next reply) plan.tail after).2 (device.lostIn (next reply) plan.tail after)) :
    ending (device.run (.request call next) plan state).2 (device.lostIn (.request call next) plan state) := by
  cases performed : device.perform (plan.headD device.quiet) state call with
  | mk reply after =>
    cases reply with
    | none =>
      rw [run_lost plan performed, lostIn_lost plan performed]
      exact lost after performed
    | some reply =>
      rw [run_reply plan performed, lostIn_reply plan performed]
      exact goes reply after performed

theorem ends_bind {device : Device σ Call Reply Fault} {program : Program Call Reply α} {next : α → Program Call Reply β}
    {ending : σ → Option (Call × Fault) → Prop} (plan : List Fault) (state : σ)
    (lost : ∀ after, device.run program plan state = (none, after) → ending after (device.lostIn program plan state))
    (goes : ∀ result after rest, device.run program plan state = (some result, after) →
      ending (device.run (next result) rest after).2 (device.lostIn (next result) rest after)) :
    ending (device.run (program.bind next) plan state).2 (device.lostIn (program.bind next) plan state) := by
  rcases device.run_bind program next plan state with
    ⟨after, ran, stops, loses⟩ | ⟨result, after, rest, ran, resumes, loses, _⟩
  · rw [stops, loses]
    exact lost after ran
  · rw [resumes, loses]
    exact goes result after rest ran

/-- What survives every call a program may make survives the program, under any plan. -/
theorem run_keeps {device : Device σ Call Reply Fault} {allowed : Call → Prop} {property : σ → Prop}
    (keeps : ∀ fault state call, allowed call → property state → property (device.perform fault state call).2)
    (program : Program Call Reply α) (makes : program.Makes allowed) (plan : List Fault) (state : σ)
    (holds : property state) : property (device.run program plan state).2 := by
  induction program generalizing plan state with
  | pure => exact holds
  | request call next ih =>
    have kept := keeps (plan.headD device.quiet) state call makes.1 holds
    cases performed : device.perform (plan.headD device.quiet) state call with
    | mk reply after =>
      rw [performed] at kept
      cases reply with
      | none =>
        rw [run_lost plan performed]
        exact kept
      | some reply =>
        rw [run_reply plan performed]
        exact ih reply (makes.2 reply) plan.tail after kept

theorem lostIn_makes {device : Device σ Call Reply Fault} {allowed : Call → Prop} {program : Program Call Reply α}
    (makes : program.Makes allowed) {plan : List Fault} {state : σ} {call : Call} {fault : Fault}
    (lost : device.lostIn program plan state = some (call, fault)) : allowed call := by
  induction program generalizing plan state with
  | pure => cases lost
  | request made next ih =>
    cases performed : device.perform (plan.headD device.quiet) state made with
    | mk reply after =>
      cases reply with
      | none =>
        rw [lostIn_lost plan performed] at lost
        cases lost
        exact makes.1
      | some reply =>
        rw [lostIn_reply plan performed] at lost
        exact ih reply (makes.2 reply) lost

/-- The faults of the device only take its power: a call that is answered is
answered as if there were none. -/
def PowerOnly (device : Device σ Call Reply Fault) : Prop :=
  ∀ fault state call reply after, device.perform fault state call = (some reply, after) →
    device.perform device.quiet state call = (some reply, after)

/-- A program that finishes in spite of them does as it does without faults. -/
theorem run_finished {device : Device σ Call Reply Fault} (power : device.PowerOnly) {program : Program Call Reply α}
    {plan : List Fault} {state after : σ} {result : α} (ran : device.run program plan state = (some result, after)) :
    device.run program [] state = (some result, after) := by
  induction program generalizing plan state with
  | pure => exact ran
  | request call next ih =>
    rcases run_request ran with ⟨lost, _⟩ | ⟨reply, middle, performed, ran⟩
    · cases lost
    · rw [run_reply [] (power _ _ _ _ _ performed)]
      exact ih reply ran

theorem run_bind_quiet {device : Device σ Call Reply Fault} {program : Program Call Reply α} {state after : σ} {result : α}
    (ran : device.run program [] state = (some result, after)) (next : α → Program Call Reply β) :
    device.run (program.bind next) [] state = device.run (next result) [] after := by
  rcases device.run_bind program next [] state with ⟨_, lost, _⟩ | ⟨_, _, _, finished, goes, _, quiet⟩
  · cases lost.symm.trans ran
  · cases finished.symm.trans ran
    cases quiet rfl
    exact goes

/-- What a layer answers when the device below meets no fault. -/
def serve {Upper : Type} {UpperReply : Upper → Type} (device : Device σ Call Reply Fault)
    (handler : (call : Upper) → Program Call Reply (Option (UpperReply call))) : Backend σ Upper UpperReply where
  perform call state :=
    match device.run (handler call) [] state with
    | (some (some reply), after) => some (reply, after)
    | _ => none

theorem serve_performs {Upper : Type} {UpperReply : Upper → Type} {device : Device σ Call Reply Fault}
    {handler : (call : Upper) → Program Call Reply (Option (UpperReply call))} {call : Upper} {state after : σ}
    {reply : UpperReply call} (ran : device.run (handler call) [] state = (some (some reply), after)) :
    (device.serve handler).perform call state = some (reply, after) := by
  simp only [serve, ran]

theorem serve_runs {Upper : Type} {UpperReply : Upper → Type} {device : Device σ Call Reply Fault}
    {handler : (call : Upper) → Program Call Reply (Option (UpperReply call))} {call : Upper} {state after : σ}
    {reply : UpperReply call} (performed : (device.serve handler).perform call state = some (reply, after)) :
    device.run (handler call) [] state = (some (some reply), after) := by
  simp only [serve] at performed
  split at performed
  next answered =>
    cases performed
    exact answered
  next => cases performed

end Device

namespace Backend
variable {σ τ γ Call : Type} {Reply : Call → Type} {α : Type}

/-- Runs a program against the component. -/
def run (backend : Backend σ Call Reply) : Program Call Reply α → σ → Option (α × σ)
  | .pure result, state => some (result, state)
  | .request call next, state =>
    match backend.perform call state with
    | none => none
    | some (reply, after) => backend.run (next reply) after

theorem run_reply {backend : Backend σ Call Reply} {call : Call} {next : Reply call → Program Call Reply α} {state after : σ}
    {reply : Reply call} (performed : backend.perform call state = some (reply, after)) :
    backend.run (.request call next) state = backend.run (next reply) after := by
  simp only [run, performed]

def recording (backend : Backend σ Call Reply) (note : Call → γ → γ) : Backend (σ × γ) Call Reply where
  perform call state := (backend.perform call state.1).map fun answer => (answer.1, answer.2, note call state.2)

theorem recording_perform {backend : Backend σ Call Reply} {note : Call → γ → γ} {call : Call} {state after : σ}
    {reply : Reply call} (notes : γ) (performed : backend.perform call state = some (reply, after)) :
    (backend.recording note).perform call (state, notes) = some (reply, after, note call notes) := by
  simp only [recording, performed, Option.map_some]

/-- A program that a layer answers without faults runs alike on the device below. -/
theorem run_under {Lower : Type} {LowerReply : Lower → Type} {Fault : Type} {device : Device σ Lower LowerReply Fault}
    {handler : (call : Call) → Program Lower LowerReply (Option (Reply call))} {program : Program Call Reply α}
    {state after : σ} {result : α} (ran : (device.serve handler).run program state = some (result, after)) :
    device.run (program.under handler) [] state = (some (some result), after) := by
  induction program generalizing state with
  | pure =>
    cases ran
    rfl
  | request call next ih =>
    simp only [run] at ran
    split at ran
    next => cases ran
    next reply middle performed =>
      have answered := Device.serve_runs performed
      exact (Device.run_bind_quiet answered _).trans (ih reply ran)

end Backend
