import TptChassis.Library.Machine

/-! Components that stand in front of another one. A wrapper has a mode of its
own, which decides for every call whether the component behind it is called.
A run of the wrapper is then a run of that component over the calls passed on. -/

universe u v w x y z

/-- `mode` is how a call changes the mode, `pass` the call that reaches the
component behind, and `answer` the reply made of that component's reply. -/
structure Wrapper (μ : Type x) (ι : Type v) (ο : Type w) (κ : Type y) (ρ : Type z) where
  mode : μ → ι → μ
  pass : μ → ι → Option κ
  answer : μ → ι → Option ρ → ο

namespace Wrapper

variable {σ τ : Type u} {μ : Type x} {ι : Type v} {ο : Type w} {κ : Type y} {ρ : Type z}

def passed (wrapper : Wrapper μ ι ο κ ρ) : μ → List ι → List κ
  | _, [] => []
  | mode, input :: rest =>
    match wrapper.pass mode input with
    | none => wrapper.passed (wrapper.mode mode input) rest
    | some call => call :: wrapper.passed (wrapper.mode mode input) rest

def answers (wrapper : Wrapper μ ι ο κ ρ) : μ → List ι → List ρ → List ο
  | _, [], _ => []
  | mode, input :: rest, replies =>
    match wrapper.pass mode input with
    | none => wrapper.answer mode input none :: wrapper.answers (wrapper.mode mode input) rest replies
    | some _ =>
      wrapper.answer mode input replies.head? :: wrapper.answers (wrapper.mode mode input) rest replies.tail

def modeAfter (wrapper : Wrapper μ ι ο κ ρ) (mode : μ) (inputs : List ι) : μ := inputs.foldl wrapper.mode mode

variable {wrapper : Wrapper μ ι ο κ ρ} {mode : μ} {input : ι} {call : κ}

theorem passed_withheld (rest : List ι) (withheld : wrapper.pass mode input = none) :
    wrapper.passed mode (input :: rest) = wrapper.passed (wrapper.mode mode input) rest := by
  rw [passed, withheld]

theorem passed_cons (rest : List ι) (passes : wrapper.pass mode input = some call) :
    wrapper.passed mode (input :: rest) = call :: wrapper.passed (wrapper.mode mode input) rest := by
  rw [passed, passes]

theorem answers_withheld (rest : List ι) (replies : List ρ) (withheld : wrapper.pass mode input = none) :
    wrapper.answers mode (input :: rest) replies =
      wrapper.answer mode input none :: wrapper.answers (wrapper.mode mode input) rest replies := by
  rw [answers, withheld]

theorem answers_cons (rest : List ι) (reply : ρ) (replies : List ρ) (passes : wrapper.pass mode input = some call) :
    wrapper.answers mode (input :: rest) (reply :: replies) =
      wrapper.answer mode input (some reply) :: wrapper.answers (wrapper.mode mode input) rest replies := by
  rw [answers, passes]
  rfl

/-- A machine is another one behind the wrapper, when each of its states is seen
as a mode and a state of the other. -/
structure Wraps (wrapper : Wrapper μ ι ο κ ρ) (outer : Machine σ ι ο) (inner : Machine τ κ ρ)
    (mode : σ → μ) (core : σ → τ) : Prop where
  withholds : ∀ state input, wrapper.pass (mode state) input = none →
    ∃ next, outer.step state input = some (wrapper.answer (mode state) input none, next) ∧
      mode next = wrapper.mode (mode state) input ∧ core next = core state
  passes : ∀ state input call, wrapper.pass (mode state) input = some call →
    ∀ reply after, inner.step (core state) call = some (reply, after) →
      ∃ next, outer.step state input = some (wrapper.answer (mode state) input (some reply), next) ∧
        mode next = wrapper.mode (mode state) input ∧ core next = after
  stops : ∀ state input call, wrapper.pass (mode state) input = some call →
    inner.step (core state) call = none → outer.step state input = none

namespace Wraps
variable {outer : Machine σ ι ο} {inner : Machine τ κ ρ} {mode : σ → μ} {core : σ → τ}

/-- A run of the wrapper is the run of the component behind it over the calls
passed on. It panics exactly when that run does. -/
theorem run (wraps : wrapper.Wraps outer inner mode core) (state : σ) (inputs : List ι) :
    (outer.run state inputs).map (fun result => (result.1, mode result.2, core result.2)) =
      (inner.run (core state) (wrapper.passed (mode state) inputs)).map (fun result =>
        (wrapper.answers (mode state) inputs result.1, wrapper.modeAfter (mode state) inputs, result.2)) := by
  induction inputs generalizing state with
  | nil => rfl
  | cons input rest ih =>
    cases decided : wrapper.pass (mode state) input with
    | none =>
      obtain ⟨next, called, moved, kept⟩ := wraps.withholds state input decided
      have later := ih next
      rw [moved, kept] at later
      have answered := congrArg
        (Option.map (Prod.map (wrapper.answer (mode state) input none :: ·) id)) later
      simp only [Option.map_map] at answered
      simp only [Machine.run_cons rest called, passed_withheld rest decided, answers_withheld rest _ decided,
        Option.map_map]
      exact answered
    | some call =>
      cases done : inner.step (core state) call with
      | none =>
        have stopped := wraps.stops state input call decided done
        simp only [passed_cons rest decided, Machine.run, stopped, done, Option.map_none]
      | some result =>
        obtain ⟨reply, after⟩ := result
        obtain ⟨next, called, moved, kept⟩ := wraps.passes state input call decided reply after done
        have later := ih next
        rw [moved, kept] at later
        have answered := congrArg
          (Option.map (Prod.map (wrapper.answer (mode state) input (some reply) :: ·) id)) later
        simp only [Option.map_map] at answered
        rw [passed_cons rest decided, Machine.run_cons rest called, Machine.run_cons _ done, Option.map_map,
          Option.map_map]
        simp only [Function.comp_def, answers_cons rest reply _ decided]
        exact answered

/-- The mode in a run is a summary of the calls made so far. -/
theorem run_mode (wraps : wrapper.Wraps outer inner mode core) {state last : σ} {inputs : List ι}
    {outputs : List ο} (ran : outer.run state inputs = some (outputs, last)) :
    mode last = wrapper.modeAfter (mode state) inputs := by
  have both := wraps.run state inputs
  rw [ran] at both
  obtain ⟨result, _, same⟩ := Option.map_eq_some_iff.mp both.symm
  exact (congrArg (fun triple => triple.2.1) same).symm

end Wraps
end Wrapper
