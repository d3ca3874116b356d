import TptChassis.Library.Machine

/-! Queues by what goes into them and comes out. When every call accounts for the
items it puts in and takes out, so does every run. -/

universe u v w x

namespace Machine

variable {σ : Type u} {ι : Type v} {ο : Type w} {α : Type x}

/-- The items of all calls of a history, oldest first. -/
def gathered (items : Step σ ι ο → List α) : List (Step σ ι ο) → List α
  | [] => []
  | step :: past => gathered items past ++ items step

/-- Nothing is lost, made up or reordered between the entry of a queue and its exit. -/
def Conserves (machine : Machine σ ι ο) (contents : σ → List α) (enters leaves : Step σ ι ο → List α) : Prop :=
  ∀ before input output after, machine.step before input = some (output, after) →
    contents before ++ enters ⟨before, input, output, after⟩ = leaves ⟨before, input, output, after⟩ ++ contents after

theorem Reaches.conserved {machine : Machine σ ι ο} {contents : σ → List α} {enters leaves : Step σ ι ο → List α}
    {start state : σ} {past : List (Step σ ι ο)} (reached : machine.Reaches start past state)
    (conserves : machine.Conserves contents enters leaves) :
    contents start ++ gathered enters past = gathered leaves past ++ contents state := by
  induction reached with
  | start => simp [gathered]
  | call _ called ih =>
    have law := conserves _ _ _ _ called
    simp only [gathered]
    rw [← List.append_assoc, ih, List.append_assoc, law, List.append_assoc]

theorem gathered_sublist {fewer more : Step σ ι ο → List α} (past : List (Step σ ι ο))
    (within : ∀ step ∈ past, List.Sublist (fewer step) (more step)) :
    List.Sublist (gathered fewer past) (gathered more past) := by
  induction past with
  | nil => exact List.Sublist.refl _
  | cons step past ih =>
    exact (ih fun other member => within other (List.mem_cons_of_mem _ member)).append (within step List.mem_cons_self)

/-- Of two accounts of a history, one within the other, the totals agree exactly if
they agree on every call. -/
theorem gathered_eq_iff {fewer more : Step σ ι ο → List α} (past : List (Step σ ι ο))
    (within : ∀ step ∈ past, List.Sublist (fewer step) (more step)) :
    gathered fewer past = gathered more past ↔ ∀ step ∈ past, fewer step = more step := by
  induction past with
  | nil => simp [gathered]
  | cons step past ih =>
    have later := gathered_sublist past fun other member => within other (List.mem_cons_of_mem _ member)
    have here := within step List.mem_cons_self
    rw [List.forall_mem_cons, ← ih fun other member => within other (List.mem_cons_of_mem _ member)]
    constructor
    · intro same
      have lengths := congrArg List.length same
      simp only [gathered, List.length_append] at lengths
      have shorter := later.length_le
      have short := here.length_le
      exact ⟨here.eq_of_length (by omega), later.eq_of_length (by omega)⟩
    · intro both
      simp only [gathered, both.1, both.2]

end Machine
