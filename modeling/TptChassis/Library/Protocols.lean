import TptChassis.Library.Layers

/-! Protocols of use. A component may ask its callers to make calls in some order
only, such as to close what they open. A program that keeps to the protocol whatever
the replies never misuses the component, whatever the component does. -/

/-- Which calls are allowed in each state of use, and how an answered call changes
it. When the power goes off, the use begins anew. -/
structure Protocol (ρ Call : Type) (Reply : Call → Type) where
  initial : ρ
  allows : ρ → Call → Bool
  next : ρ → (call : Call) → Reply call → ρ

namespace Program
variable {ρ Call Upper : Type} {Reply : Call → Type} {UpperReply : Upper → Type} {α β : Type}
  {protocol : Protocol ρ Call Reply}

/-- The program makes allowed calls only, and the use it ends in has the property. -/
inductive Keeps (protocol : Protocol ρ Call Reply) (ends : ρ → Prop) : ρ → Program Call Reply α → Prop where
  | pure {use result} (done : ends use) : Keeps protocol ends use (.pure result)
  | request {use call next} (allowed : protocol.allows use call = true)
      (rest : ∀ reply, Keeps protocol ends (protocol.next use call reply) (next reply)) :
      Keeps protocol ends use (.request call next)

theorem Keeps.bind {middle ends : ρ → Prop} {use : ρ} {program : Program Call Reply α} {next : α → Program Call Reply β}
    (keeps : program.Keeps protocol middle use)
    (following : ∀ result use, middle use → (next result).Keeps protocol ends use) :
    (program.bind next).Keeps protocol ends use := by
  induction keeps with
  | pure done => exact following _ _ done
  | request allowed _ ih => exact .request allowed ih

/-- A layer whose every call keeps to the protocol lets no program misuse the layer below. -/
theorem Keeps.under {ends : ρ → Prop} {handler : (call : Upper) → Program Call Reply (Option (UpperReply call))}
    (handled : ∀ call use, ends use → (handler call).Keeps protocol ends use) (program : Program Upper UpperReply α)
    {use : ρ} (begins : ends use) : (program.under handler).Keeps protocol ends use := by
  induction program generalizing use with
  | pure => exact .pure begins
  | request call next ih =>
    apply Keeps.bind (handled call use begins)
    intro reply use between
    cases reply with
    | none => exact .pure between
    | some reply => exact ih reply between

end Program

namespace Device
variable {σ ρ Call : Type} {Reply : Call → Type} {Fault α : Type}

/-- The device with a record of its use, which is lost for good at the first call
that the protocol does not allow. -/
def watched (device : Device σ Call Reply Fault) (protocol : Protocol ρ Call Reply) :
    Device (σ × Option ρ) Call Reply Fault where
  quiet := device.quiet
  perform fault state call :=
    let (reply, after) := device.perform fault state.1 call
    let use := state.2.bind fun use =>
      if protocol.allows use call then some (reply.elim protocol.initial (protocol.next use call)) else none
    (reply, after, use)

theorem watched_allowed {device : Device σ Call Reply Fault} {protocol : Protocol ρ Call Reply} {fault : Fault}
    {state after : σ} {use : ρ} {call : Call} {reply : Option (Reply call)} (allowed : protocol.allows use call = true)
    (performed : device.perform fault state call = (reply, after)) :
    (device.watched protocol).perform fault (state, some use) call =
      (reply, after, some (reply.elim protocol.initial (protocol.next use call))) := by
  simp only [watched, performed, Option.bind_some, allowed, if_true]

/-- Being watched makes no difference to a program that keeps to the protocol, and its
use is on record afterwards. -/
theorem run_watched (device : Device σ Call Reply Fault) {protocol : Protocol ρ Call Reply} {ends : ρ → Prop} {use : ρ}
    {program : Program Call Reply α} (begins : ends protocol.initial) (keeps : program.Keeps protocol ends use)
    (plan : List Fault) (state : σ) :
    ∃ last, ends last ∧ (device.watched protocol).run program plan (state, some use) =
      ((device.run program plan state).1, (device.run program plan state).2, some last) := by
  induction keeps generalizing plan state with
  | pure done => exact ⟨_, done, rfl⟩
  | @request use call next allowed _ ih =>
    cases performed : device.perform (plan.headD device.quiet) state call with
    | mk reply after =>
      have watched := watched_allowed allowed performed
      cases reply with
      | none =>
        rw [run_lost plan performed]
        exact ⟨_, begins, run_lost plan watched⟩
      | some reply =>
        obtain ⟨last, done, ran⟩ := ih reply plan.tail after
        rw [run_reply plan performed]
        exact ⟨last, done, (run_reply plan watched).trans ran⟩

end Device
