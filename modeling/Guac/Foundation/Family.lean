import Mathlib.Logic.Function.Basic
import Guac.Foundation.Machine

/-!
Owns a family of machines side by side: the state holds one component for every
index, an event names the index it is for, and a step moves that component
alone. A run of the family is, for every index, a replay of the events it has
for that index.

It names no program. The storage of a node is a family of entries.
-/

set_option autoImplicit false

namespace Guac.Foundation

variable {ι σ ε : Type*} [DecidableEq ι]

/-- The machines of a family, each on its own component. -/
def Machine.family (machines : ι → Machine σ ε) : Machine (ι → σ) (ι × ε) where
  step states event :=
    match (machines event.1).step (states event.1) event.2 with
    | none => none
    | some next => some (Function.update states event.1 next)

/-- The events a run has for one index, in order. -/
def eventsAt (index : ι) (taken : List (Transition (ι → σ) (ι × ε))) : List ε :=
  (taken.filter fun transition => transition.event.1 = index).map fun transition =>
    transition.event.2

namespace Machine

variable {machines : ι → Machine σ ε}

theorem family_step {before after : ι → σ} {event : ι × ε} :
    (family machines).step before event = some after ↔
      ∃ next, (machines event.1).step (before event.1) event.2 = some next ∧
        after = Function.update before event.1 next := by
  change (match (machines event.1).step (before event.1) event.2 with
    | none => none
    | some next => some (Function.update before event.1 next)) = some after ↔ _
  cases (machines event.1).step (before event.1) event.2 with
  | none => simp
  | some next => simp [eq_comm]

variable {start state : ι → σ} {taken : List (Transition (ι → σ) (ι × ε))}

theorem Run.family_others (run : (family machines).Run start taken state) :
    ∀ transition ∈ taken, ∀ other, other ≠ transition.event.1 →
      transition.after other = transition.before other := by
  intro transition member other different
  obtain ⟨next, -, moved⟩ := family_step.mp (run.step_of_mem transition member)
  rw [moved, Function.update_of_ne different]

/-- On every component a run is the replay of the events it has for it. -/
theorem Run.family_replay (run : (family machines).Run start taken state) (index : ι) :
    (machines index).replay (start index) (eventsAt index taken) = some (state index) := by
  induction run with
  | nil => rfl
  | @snoc taken before after event earlier stepped inductionHypothesis =>
      obtain ⟨next, moved, rfl⟩ := family_step.mp stepped
      unfold eventsAt at inductionHypothesis ⊢
      rw [List.filter_append, List.map_append, replay_append, inductionHypothesis, Option.bind_some]
      by_cases same : event.1 = index
      · subst same
        simp [replay, moved]
      · have different : index ≠ event.1 := fun equal => same equal.symm
        simp [same, replay, Function.update_of_ne different]

end Machine

end Guac.Foundation
