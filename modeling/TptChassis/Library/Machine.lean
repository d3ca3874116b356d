import Mathlib.Data.List.Basic

/-! Components that are driven one call at a time. A call that panics has no
result, and nothing is called afterwards. Runs keep every call with the states
around it, because many properties speak of what happened before. -/

universe u v w

structure Machine (σ : Type u) (ι : Type v) (ο : Type w) where
  step : σ → ι → Option (ο × σ)

/-- One call as it took place. -/
structure Step (σ : Type u) (ι : Type v) (ο : Type w) where
  before : σ
  input : ι
  output : ο
  after : σ

namespace Machine

variable {σ : Type u} {ι : Type v} {ο : Type w}

/-- The outputs of the calls, in order, and the state they leave. -/
def run (machine : Machine σ ι ο) : σ → List ι → Option (List ο × σ)
  | state, [] => some ([], state)
  | state, input :: rest =>
    match machine.step state input with
    | none => none
    | some (output, next) =>
      match machine.run next rest with
      | none => none
      | some (outputs, last) => some (output :: outputs, last)

theorem run_cons {machine : Machine σ ι ο} {state next : σ} {input : ι} {output : ο} (rest : List ι)
    (called : machine.step state input = some (output, next)) :
    machine.run state (input :: rest) =
      (machine.run next rest).map (fun result => (output :: result.1, result.2)) := by
  simp only [run, called]
  cases machine.run next rest <;> rfl

theorem run_append (machine : Machine σ ι ο) (state : σ) (first rest : List ι) :
    machine.run state (first ++ rest) =
      (machine.run state first).bind fun result =>
        (machine.run result.2 rest).map fun later => (result.1 ++ later.1, later.2) := by
  induction first generalizing state with
  | nil => simp [run]
  | cons input first ih =>
    cases called : machine.step state input with
    | none => simp [run, called]
    | some result =>
      obtain ⟨output, next⟩ := result
      rw [List.cons_append, run_cons _ called, run_cons _ called, ih next]
      cases machine.run next first with
      | none => rfl
      | some middle =>
        simp only [Option.bind_some, Option.map_some]
        cases machine.run middle.2 rest <;> rfl

theorem run_cases {machine : Machine σ ι ο} {state last : σ} {input : ι} {rest : List ι} {outputs : List ο}
    (ran : machine.run state (input :: rest) = some (outputs, last)) :
    ∃ output next later, machine.step state input = some (output, next) ∧ machine.run next rest = some (later, last) ∧
      outputs = output :: later := by
  simp only [run] at ran
  split at ran
  next => cases ran
  next output next called =>
    split at ran
    next => cases ran
    next later _ ran' =>
      cases ran
      exact ⟨output, next, later, called, ran', rfl⟩

theorem run_invariant {machine : Machine σ ι ο} {property : σ → Prop} {state last : σ} {inputs : List ι}
    {outputs : List ο} (ran : machine.run state inputs = some (outputs, last)) (initial : property state)
    (preserved : ∀ state input output next, property state →
      machine.step state input = some (output, next) → property next) : property last := by
  induction inputs generalizing state outputs with
  | nil =>
    cases ran
    exact initial
  | cons input rest ih =>
    obtain ⟨output, next, later, called, ran, _⟩ := run_cases ran
    exact ih ran (preserved _ _ _ _ initial called)

/-- Every output of a run answers one of its calls. -/
theorem run_answered {machine : Machine σ ι ο} {state last : σ} {inputs : List ι} {outputs : List ο} {output : ο}
    (ran : machine.run state inputs = some (outputs, last)) (member : output ∈ outputs) :
    ∃ before input after, input ∈ inputs ∧ machine.step before input = some (output, after) := by
  induction inputs generalizing state outputs with
  | nil =>
    cases ran
    cases member
  | cons input rest ih =>
    obtain ⟨answer, next, later, called, rest_ran, rfl⟩ := run_cases ran
    rcases List.mem_cons.mp member with rfl | member
    · exact ⟨state, input, next, List.mem_cons_self, called⟩
    · obtain ⟨before, other, after, inside, called⟩ := ih rest_ran member
      exact ⟨before, other, after, List.mem_cons_of_mem _ inside, called⟩

/-- Two machines whose related states answer every call alike, and stay related,
answer whole runs alike. -/
theorem run_simulation {τ : Type u} {first : Machine σ ι ο} {second : Machine τ ι ο} {related : σ → τ → Prop}
    (inputs : List ι)
    (simulates : ∀ input ∈ inputs, ∀ state other, related state other →
      ∃ output next following, first.step state input = some (output, next) ∧
        second.step other input = some (output, following) ∧ related next following)
    (state : σ) (other : τ) (begins : related state other) :
    ∃ outputs last final, first.run state inputs = some (outputs, last) ∧
      second.run other inputs = some (outputs, final) ∧ related last final := by
  induction inputs generalizing state other with
  | nil => exact ⟨[], state, other, rfl, rfl, begins⟩
  | cons input rest ih =>
    obtain ⟨output, next, following, called, matched, kept⟩ := simulates input List.mem_cons_self state other begins
    obtain ⟨outputs, last, final, ran, ran', ends⟩ :=
      ih (fun input member => simulates input (List.mem_cons_of_mem _ member)) next following kept
    refine ⟨output :: outputs, last, final, ?_, ?_, ends⟩
    · rw [run_cons rest called, ran]
      rfl
    · rw [run_cons rest matched, ran']
      rfl

/-- A machine that does to one view of its state what another does to the whole of its
own, on translated inputs, does so in whole runs. -/
theorem run_view {τ : Type u} {κ : Type w} {first : Machine σ ι ο} {second : Machine τ κ ο} (view : σ → τ) (translate : ι → κ)
    (same : ∀ state input, (first.step state input).map (fun result => (result.1, view result.2)) =
      second.step (view state) (translate input)) (state : σ) (inputs : List ι) :
    (first.run state inputs).map (fun result => (result.1, view result.2)) =
      second.run (view state) (inputs.map translate) := by
  induction inputs generalizing state with
  | nil => rfl
  | cons input rest ih =>
    have here := same state input
    cases called : first.step state input with
    | none =>
      rw [called] at here
      simp only [run, List.map_cons, called, ← here, Option.map_none]
    | some result =>
      obtain ⟨output, next⟩ := result
      rw [called] at here
      rw [List.map_cons, run_cons rest called, run_cons _ here.symm, ← ih next, Option.map_map, Option.map_map]
      rfl

/-- A machine refines another one when each of its calls is, on some input for the same
request, a call of the other. So is each of its runs, on inputs for the same requests. -/
theorem run_refines {τ : Type u} {κ : Type v} {γ : Type w} {first : Machine σ ι ο} {second : Machine τ κ ο}
    {related : σ → τ → Prop} (request : ι → γ) (answered : κ → γ) (inputs : List ι)
    (refines : ∀ input state other, related state other → ∃ chosen output next following, answered chosen = request input ∧
      first.step state input = some (output, next) ∧ second.step other chosen = some (output, following) ∧
      related next following)
    (state : σ) (other : τ) (begins : related state other) :
    ∃ chosen outputs last final, chosen.map answered = inputs.map request ∧ first.run state inputs = some (outputs, last) ∧
      second.run other chosen = some (outputs, final) ∧ related last final := by
  induction inputs generalizing state other with
  | nil => exact ⟨[], [], state, other, rfl, rfl, rfl, begins⟩
  | cons input rest ih =>
    obtain ⟨here, output, next, following, same, called, matched, kept⟩ := refines input state other begins
    obtain ⟨chosen, outputs, last, final, alike, ran, ran', ends⟩ := ih next following kept
    refine ⟨here :: chosen, output :: outputs, last, final, ?_, ?_, ?_, ends⟩
    · rw [List.map_cons, List.map_cons, same, alike]
    · rw [run_cons rest called, ran]
      rfl
    · rw [run_cons chosen matched, ran']
      rfl

/-- Two calls that both panic, or that answer alike and leave related states. -/
inductive Agree {τ : Type u} {α : Type w} (related : σ → τ → Prop) : Option (α × σ) → Option (α × τ) → Prop where
  | panic : Agree related none none
  | answer (output : α) {state : σ} {other : τ} (kept : related state other) :
      Agree related (some (output, state)) (some (output, other))

theorem Agree.map_eq {τ : Type u} {α : Type w} {β : Type v} {related : σ → τ → Prop} {first : Option (α × σ)}
    {second : Option (α × τ)} (agree : Agree related first second) (view : σ → β) (other : τ → β)
    (same : ∀ state following, related state following → view state = other following) :
    first.map (fun result => (result.1, view result.2)) = second.map (fun result => (result.1, other result.2)) := by
  cases agree with
  | panic => rfl
  | answer output kept => exact congrArg (fun seen => some (output, seen)) (same _ _ kept)

/-- Two machines that agree on every call from related states agree on whole runs,
and panic in the same ones. -/
theorem run_agree {τ : Type u} {first : Machine σ ι ο} {second : Machine τ ι ο} {related : σ → τ → Prop}
    (inputs : List ι)
    (agree : ∀ input ∈ inputs, ∀ state other, related state other →
      Agree related (first.step state input) (second.step other input))
    (state : σ) (other : τ) (begins : related state other) :
    Agree related (first.run state inputs) (second.run other inputs) := by
  induction inputs generalizing state other with
  | nil => exact .answer [] begins
  | cons input rest ih =>
    have later := ih fun input member => agree input (List.mem_cons_of_mem _ member)
    have here := agree input List.mem_cons_self state other begins
    generalize called : first.step state input = result at here
    generalize matched : second.step other input = reply at here
    cases here with
    | panic =>
      simp only [run, called, matched]
      exact .panic
    | @answer output next following kept =>
      have both := later next following kept
      rw [run_cons rest called, run_cons rest matched]
      generalize first.run next rest = result at both
      generalize second.run following rest = reply at both
      cases both with
      | panic => exact .panic
      | answer outputs ends => exact .answer (output :: outputs) ends

/-- The states a run passes through. The calls made so far are listed with the
latest first. -/
inductive Reaches (machine : Machine σ ι ο) (start : σ) : List (Step σ ι ο) → σ → Prop where
  | start : Reaches machine start [] start
  | call {past state input output next} (earlier : Reaches machine start past state)
      (called : machine.step state input = some (output, next)) :
      Reaches machine start (⟨state, input, output, next⟩ :: past) next

/-- The history of a run, behind the history of how its first state was reached. -/
theorem Reaches.run {machine : Machine σ ι ο} {start state last : σ} {past : List (Step σ ι ο)} {inputs : List ι}
    {outputs : List ο} (reached : machine.Reaches start past state) (ran : machine.run state inputs = some (outputs, last)) :
    ∃ later, machine.Reaches start (later ++ past) last ∧ inputs = (later.map Step.input).reverse ∧
      outputs = (later.map Step.output).reverse := by
  induction inputs generalizing state past outputs with
  | nil =>
    cases ran
    exact ⟨[], reached, rfl, rfl⟩
  | cons input rest ih =>
    obtain ⟨output, next, replies, called, rest_ran, rfl⟩ := run_cases ran
    obtain ⟨later, ends, asked, answered⟩ := ih (.call reached called) rest_ran
    refine ⟨later ++ [⟨state, input, output, next⟩], ?_, ?_, ?_⟩
    · rw [List.append_assoc]
      exact ends
    · simp [asked]
    · simp [answered]

/-- What holds at the start and survives every call holds in every state reached. -/
theorem Reaches.invariant {machine : Machine σ ι ο} {start state : σ} {past : List (Step σ ι ο)}
    {property : σ → Prop} (reached : machine.Reaches start past state) (initial : property start)
    (preserved : ∀ state input output next, property state →
      machine.step state input = some (output, next) → property next) : property state := by
  induction reached with
  | start => exact initial
  | call _ called ih => exact preserved _ _ _ _ ih called

/-- Every suffix of the history is the history of the state it ended in. -/
theorem Reaches.earlier {machine : Machine σ ι ο} {start state : σ} {since past : List (Step σ ι ο)}
    {step : Step σ ι ο} (reached : machine.Reaches start (since ++ step :: past) state) :
    machine.Reaches start past step.before ∧
      machine.step step.before step.input = some (step.output, step.after) := by
  induction since generalizing state with
  | nil =>
    cases reached with
    | call earlier called => exact ⟨earlier, called⟩
  | cons _ since ih =>
    cases reached with
    | call earlier _ => exact ih earlier

theorem Reaches.called {machine : Machine σ ι ο} {start state : σ} {past : List (Step σ ι ο)} {step : Step σ ι ο}
    (reached : machine.Reaches start past state) (member : step ∈ past) :
    ∃ earlier, machine.Reaches start earlier step.before ∧
      machine.step step.before step.input = some (step.output, step.after) := by
  obtain ⟨since, earlier, rfl⟩ := List.append_of_mem member
  exact ⟨earlier, reached.earlier⟩

/-- Two calls for the same request, between related states and with the same output. -/
structure Mirrors {τ : Type u} {κ : Type v} {γ : Type w} (related : σ → τ → Prop) (request : ι → γ) (answered : κ → γ)
    (step : Step σ ι ο) (other : Step τ κ ο) : Prop where
  before : related step.before other.before
  asked : answered other.input = request step.input
  output : other.output = step.output
  after : related step.after other.after

/-- A history of a machine that refines another one is mirrored, call by call, by a
history of the other. -/
theorem Reaches.refines {τ : Type u} {κ : Type v} {γ : Type w} {first : Machine σ ι ο} {second : Machine τ κ ο}
    {related : σ → τ → Prop} {request : ι → γ} {answered : κ → γ} {start state : σ} {other : τ} {past : List (Step σ ι ο)}
    (reached : first.Reaches start past state)
    (refines : ∀ state other input output next, related state other → first.step state input = some (output, next) →
      ∃ chosen following, answered chosen = request input ∧ second.step other chosen = some (output, following) ∧
        related next following)
    (begins : related start other) :
    ∃ mirrored last, second.Reaches other mirrored last ∧ List.Forall₂ (Mirrors related request answered) past mirrored ∧
      related state last := by
  induction reached with
  | start => exact ⟨[], other, .start, .nil, begins⟩
  | call earlier called ih =>
    obtain ⟨mirrored, middle, reached', mirrors, kept⟩ := ih
    obtain ⟨chosen, last, same, matched, ends⟩ := refines _ _ _ _ _ kept called
    exact ⟨_, last, .call reached' matched, .cons ⟨kept, same, rfl, ends⟩ mirrors, ends⟩

/-- Calls that left the state as it was can be dropped from a history. -/
theorem Reaches.filter {machine : Machine σ ι ο} {start state : σ} {past : List (Step σ ι ο)}
    (reached : machine.Reaches start past state) (kept : Step σ ι ο → Bool)
    (idle : ∀ step ∈ past, kept step = false → step.after = step.before) :
    machine.Reaches start (past.filter kept) state := by
  induction reached with
  | start => exact .start
  | @call past state input output next _ called ih =>
    have shorter := ih (fun step member => idle step (List.mem_cons_of_mem _ member))
    cases keep : kept ⟨state, input, output, next⟩ with
    | false =>
      have same : next = state := idle _ List.mem_cons_self keep
      rw [List.filter_cons_of_neg (ne_true_of_eq_false keep), same]
      exact shorter
    | true =>
      rw [List.filter_cons_of_pos keep]
      exact .call shorter called

/-- Such a call was made, after such a history, and none that stops it since. -/
def Since {α : Type u} (event : α → List α → Prop) (stops : α → Prop) : List α → Prop
  | [] => False
  | call :: past => event call past ∨ (¬ stops call ∧ Since event stops past)

theorem Since.imp {α : Type u} {event other : α → List α → Prop} {stops fewer : α → Prop} {past : List α}
    (since : Since event stops past)
    (events : ∀ call earlier, (call :: earlier) <:+ past → event call earlier → other call earlier)
    (rarer : ∀ call ∈ past, fewer call → stops call) : Since other fewer past := by
  induction past with
  | nil => exact since
  | cons call past ih =>
    rcases since with happened | ⟨runs, before⟩
    · exact .inl (events call past (List.suffix_refl _) happened)
    · refine .inr ⟨fun stopped => runs (rarer call List.mem_cons_self stopped), ih before ?_ ?_⟩
      · exact fun call earlier inside => events call earlier (inside.trans (List.suffix_cons _ past))
      · exact fun call member => rarer call (List.mem_cons_of_mem _ member)

theorem Reaches.suffix {machine : Machine σ ι ο} {start state : σ} {past earlier : List (Step σ ι ο)}
    {step : Step σ ι ο}
    (reached : machine.Reaches start past state) (inside : (step :: earlier) <:+ past) :
    machine.Reaches start earlier step.before ∧
      machine.step step.before step.input = some (step.output, step.after) := by
  obtain ⟨since, rfl⟩ := inside
  exact reached.earlier

/-- Along the run over these inputs no call panics, and the property holds in
the first state and after every call. -/
def Safe (machine : Machine σ ι ο) (property : σ → Prop) : σ → List ι → Prop
  | state, [] => property state
  | state, input :: rest =>
    property state ∧ ∃ output next, machine.step state input = some (output, next) ∧ machine.Safe property next rest

theorem Safe.holds {machine : Machine σ ι ο} {property : σ → Prop} {state : σ} {inputs : List ι}
    (safe : machine.Safe property state inputs) : property state := by
  cases inputs with
  | nil => exact safe
  | cons => exact safe.1

/-- When an invariant leaves only the inputs to decide which calls panic or end
in a bad state, a run is safe exactly when every input is admitted. -/
theorem safe_iff {machine : Machine σ ι ο} {invariant property : σ → Prop} {admits : ι → Prop}
    (implies : ∀ state, invariant state → property state) (inputs : List ι)
    (progress : ∀ input ∈ inputs, admits input → ∀ state, invariant state →
      ∃ output next, machine.step state input = some (output, next) ∧ invariant next)
    (breaks : ∀ input ∈ inputs, ¬ admits input → ∀ state, invariant state →
      ∀ output next, machine.step state input = some (output, next) → ¬ property next)
    (state : σ) (holds : invariant state) :
    machine.Safe property state inputs ↔ ∀ input ∈ inputs, admits input := by
  induction inputs generalizing state with
  | nil => simpa [Safe] using implies state holds
  | cons input rest ih =>
    have later : ∀ next, invariant next → (machine.Safe property next rest ↔ ∀ input ∈ rest, admits input) :=
      ih (fun input member => progress input (List.mem_cons_of_mem _ member))
        (fun input member => breaks input (List.mem_cons_of_mem _ member))
    rw [List.forall_mem_cons]
    constructor
    · rintro ⟨_, output, next, called, safe⟩
      by_cases admitted : admits input
      · obtain ⟨_, _, progressed, kept⟩ := progress input List.mem_cons_self admitted state holds
        cases called.symm.trans progressed
        exact ⟨admitted, (later next kept).mp safe⟩
      · exact absurd safe.holds (breaks input List.mem_cons_self admitted state holds output next called)
    · rintro ⟨admitted, others⟩
      obtain ⟨output, next, called, kept⟩ := progress input List.mem_cons_self admitted state holds
      exact ⟨implies state holds, output, next, called, (later next kept).mpr others⟩

end Machine
