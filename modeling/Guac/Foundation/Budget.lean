import Guac.Foundation.Machine

/-!
Owns machines that live on a budget: every event brings some work with it, and every step
does at least one unit of the work there is. So a run is at most as long as the work its
events brought, and events that bring none run out. A machine that can always go on until
it rests then comes to rest under every such schedule.

It names no program. The network of two nodes instantiates it.
-/

set_option autoImplicit false

namespace Guac.Foundation

namespace Machine

universe u v

variable {σ : Type u} {ε : Type v}

/-- In the states that `Holds` keeps, the work left and the work an event brings pay for
every step. -/
structure Budget (machine : Machine σ ε) (Holds : σ → Prop) (work : σ → ℕ) (brings : ε → ℕ) :
    Prop where
  kept : ∀ {state next : σ} {event : ε}, Holds state → machine.step state event = some next →
    Holds next
  pays : ∀ {state next : σ} {event : ε}, Holds state → machine.step state event = some next →
    work next + 1 ≤ work state + brings event

variable {machine : Machine σ ε} {Holds : σ → Prop} {work : σ → ℕ} {brings : ε → ℕ}
  {state after : σ} {events : List ε}

/-- The work left and the length of a replay are paid by what there was and what was
brought. -/
theorem Budget.replayed (budget : Budget machine Holds work brings) (holds : Holds state)
    (replay : machine.replay state events = some after) :
    Holds after ∧ events.length + work after ≤ work state + (events.map brings).sum := by
  induction events generalizing state with
  | nil =>
      obtain rfl := Option.some.inj replay
      exact ⟨holds, by simp⟩
  | cons event rest inductionHypothesis =>
      obtain ⟨next, stepped, replay⟩ := replay_cons.mp replay
      have paid := budget.pays holds stepped
      obtain ⟨holdsLast, length⟩ := inductionHypothesis (budget.kept holds stepped) replay
      refine ⟨holdsLast, ?_⟩
      simp only [List.length_cons, List.map_cons, List.sum_cons]
      omega

/-- Where a state that does not rest has a step without new work, some such steps lead to
rest. -/
theorem Budget.reaches_rest (budget : Budget machine Holds work brings) {Rests : σ → Prop}
    (goesOn : ∀ state, Holds state → ¬ Rests state →
      ∃ event, brings event = 0 ∧ (machine.step state event).isSome)
    (holds : Holds state) :
    ∃ events final, (∀ event ∈ events, brings event = 0) ∧
      machine.replay state events = some final ∧ Rests final := by
  induction left : work state using Nat.strongRecOn generalizing state with
  | _ left inductionHypothesis =>
      subst left
      by_cases rests : Rests state
      · exact ⟨[], state, List.forall_mem_nil _, rfl, rests⟩
      · obtain ⟨event, free, enabled⟩ := goesOn state holds rests
        obtain ⟨next, stepped⟩ := Option.isSome_iff_exists.mp enabled
        have paid := budget.pays holds stepped
        have lower : work next < work state := by omega
        obtain ⟨events, final, quiet, replay, ended⟩ :=
          inductionHypothesis _ lower (budget.kept holds stepped) rfl
        refine ⟨event :: events, final, ?_, replay_cons.mpr ⟨next, stepped, replay⟩, ended⟩
        exact List.forall_mem_cons.mpr ⟨free, quiet⟩

end Machine

end Guac.Foundation
