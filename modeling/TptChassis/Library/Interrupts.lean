import TptChassis.Library.Machine

/-! Programs that call a device, and devices that can fail or lose power in any
call. A program is a tree of calls, so that an execution can be stopped at each
of them. -/

inductive Program (Call : Type) (Reply : Call → Type) (α : Type) where
  | pure (result : α)
  | request (call : Call) (next : Reply call → Program Call Reply α)

namespace Program
variable {Call : Type} {Reply : Call → Type} {α β : Type}

def bind (program : Program Call Reply α) (next : α → Program Call Reply β) : Program Call Reply β :=
  match program with
  | .pure result => next result
  | .request call rest => .request call fun reply => (rest reply).bind next

instance : Monad (Program Call Reply) where
  pure := .pure
  bind := bind

end Program

/-- What a call does to the state of the device and what it replies, under a
fault. Without a reply the power went off during the call. -/
structure Device (σ : Type) (Call : Type) (Reply : Call → Type) (Fault : Type) where
  quiet : Fault
  perform : Fault → σ → (call : Call) → Option (Reply call) × σ

namespace Device
variable {σ Call : Type} {Reply : Call → Type} {Fault α β : Type}

/-- Runs a program against a device. The plan gives each call its fault in turn;
calls beyond it meet none. There is no result when the power went off. -/
def run (device : Device σ Call Reply Fault) : Program Call Reply α → List Fault → σ → Option α × σ
  | .pure result, _, state => (some result, state)
  | .request call next, plan, state =>
    match device.perform (plan.headD device.quiet) state call with
    | (none, after) => (none, after)
    | (some reply, after) => device.run (next reply) plan.tail after

/-- A run that begins with a call either ends there or goes on from its reply. -/
theorem run_request {device : Device σ Call Reply Fault} {call : Call} {next : Reply call → Program Call Reply α}
    {plan : List Fault} {state after : σ} {result : Option α}
    (ran : device.run (.request call next) plan state = (result, after)) :
    (result = none ∧ device.perform (plan.headD device.quiet) state call = (none, after)) ∨
    ∃ reply middle, device.perform (plan.headD device.quiet) state call = (some reply, middle) ∧
      device.run (next reply) plan.tail middle = (result, after) := by
  simp only [run] at ran
  split at ran
  next performed =>
    cases ran
    exact .inl ⟨rfl, performed⟩
  next reply middle performed => exact .inr ⟨reply, middle, performed, ran⟩

theorem run_reply {device : Device σ Call Reply Fault} {call : Call} {next : Reply call → Program Call Reply α}
    (plan : List Fault) {state middle : σ} {reply : Reply call}
    (performed : device.perform (plan.headD device.quiet) state call = (some reply, middle)) :
    device.run (.request call next) plan state = device.run (next reply) plan.tail middle := by
  simp only [run, performed]

theorem run_lost {device : Device σ Call Reply Fault} {call : Call} {next : Reply call → Program Call Reply α}
    (plan : List Fault) {state after : σ}
    (performed : device.perform (plan.headD device.quiet) state call = (none, after)) :
    device.run (.request call next) plan state = (none, after) := by
  simp only [run, performed]

end Device
