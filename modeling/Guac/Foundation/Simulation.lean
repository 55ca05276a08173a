import Guac.Foundation.Machine

/-!
Owns simulations between two machines. A concrete event is read as an abstract one or as
none; a step with an event that is read as none leaves the abstract state as it is. A
simulation goes down: what the concrete machine does, the abstract one does. A lifting goes
up: what the abstract machine does, the concrete one does with the events it is written as.
Two machines in lockstep have both.

It names no program. The network over HTTP and the server of a node instantiate it.
-/

set_option autoImplicit false

namespace Guac.Foundation

universe u v w x

variable {σ : Type u} {ε : Type v} {τ : Type w} {δ : Type x}

/-- Related states step together, and stay where the event is read as none. -/
def Simulation (concrete : Machine σ ε) (abstract : Machine τ δ) (reads : ε → Option δ)
    (Related : σ → τ → Prop) : Prop :=
  ∀ (state next : σ) (seen : τ) (event : ε), Related state seen →
    concrete.step state event = some next →
      match reads event with
      | none => Related next seen
      | some read => ∃ after, abstract.step seen read = some after ∧ Related next after

/-- Every abstract step is made by the concrete events it is written as. -/
def Lifting (concrete : Machine σ ε) (abstract : Machine τ δ) (writes : δ → List ε)
    (Related : σ → τ → Prop) : Prop :=
  ∀ (state : σ) (seen after : τ) (event : δ), Related state seen →
    abstract.step seen event = some after →
      ∃ next, concrete.replay state (writes event) = some next ∧ Related next after

variable {concrete : Machine σ ε} {abstract : Machine τ δ} {reads : ε → Option δ}
  {Related : σ → τ → Prop}

/-- A replay of the concrete machine is one of the abstract machine, on what its events
are read as. -/
theorem Simulation.replay (simulation : Simulation concrete abstract reads Related)
    {start state : σ} {seen : τ} {events : List ε} (related : Related start seen)
    (replayed : concrete.replay start events = some state) :
    ∃ after, abstract.replay seen (events.filterMap reads) = some after ∧
      Related state after := by
  induction events generalizing start seen with
  | nil =>
      obtain rfl := Option.some.inj replayed
      exact ⟨seen, rfl, related⟩
  | cons event rest inductionHypothesis =>
      obtain ⟨next, stepped, replayed⟩ := Machine.replay_cons.mp replayed
      have simulated := simulation _ _ _ _ related stepped
      cases read : reads event with
      | none =>
          rw [read] at simulated
          rw [List.filterMap_cons_none read]
          exact inductionHypothesis simulated replayed
      | some seenEvent =>
          rw [read] at simulated
          obtain ⟨middle, moved, relatedNext⟩ := simulated
          obtain ⟨after, rest, relatedLast⟩ := inductionHypothesis relatedNext replayed
          rw [List.filterMap_cons_some read]
          exact ⟨after, Machine.replay_cons.mpr ⟨middle, moved, rest⟩, relatedLast⟩

/-- A replay of the abstract machine is one of the concrete machine, on what its events are
written as. -/
theorem Lifting.replay {writes : δ → List ε}
    (lifting : Lifting concrete abstract writes Related) {start : σ} {seen after : τ}
    {events : List δ} (related : Related start seen)
    (replayed : abstract.replay seen events = some after) :
    ∃ state, concrete.replay start (events.flatMap writes) = some state ∧
      Related state after := by
  induction events generalizing start seen with
  | nil =>
      obtain rfl := Option.some.inj replayed
      exact ⟨start, rfl, related⟩
  | cons event rest inductionHypothesis =>
      obtain ⟨middle, moved, replayed⟩ := Machine.replay_cons.mp replayed
      obtain ⟨next, stepped, relatedNext⟩ := lifting _ _ _ _ related moved
      obtain ⟨state, replay, relatedLast⟩ := inductionHypothesis relatedNext replayed
      refine ⟨state, ?_, relatedLast⟩
      rw [List.flatMap_cons, Machine.replay_append, stepped]
      exact replay

/-- The machines are in lockstep: an event that is read as another is enabled where the
other is, and the states it leads to are related. -/
structure Lockstep (concrete : Machine σ ε) (abstract : Machine τ δ) (reads : ε → Option δ)
    (Related : σ → τ → Prop) : Prop where
  silent : ∀ {state next : σ} {seen : τ} {event : ε}, Related state seen →
    reads event = none → concrete.step state event = some next → Related next seen
  together : ∀ {state : σ} {seen : τ} {event : ε} {read : δ}, Related state seen →
    reads event = some read →
      Option.Rel Related (concrete.step state event) (abstract.step seen read)

theorem Lockstep.simulation (lockstep : Lockstep concrete abstract reads Related) :
    Simulation concrete abstract reads Related := by
  intro state next seen event related stepped
  cases read : reads event with
  | none => exact lockstep.silent related read stepped
  | some seenEvent =>
      have together := lockstep.together related read
      rw [stepped] at together
      cases moved : abstract.step seen seenEvent with
      | none =>
          rw [moved] at together
          cases together
      | some after =>
          rw [moved] at together
          cases together with
          | some relatedNext => exact ⟨after, moved, relatedNext⟩

theorem Lockstep.lifting {writes : δ → ε}
    (lockstep : Lockstep concrete abstract reads Related)
    (written : ∀ event, reads (writes event) = some event) :
    Lifting concrete abstract (fun event => [writes event]) Related := by
  intro state seen after event related moved
  have together := lockstep.together related (written event)
  rw [moved] at together
  cases stepped : concrete.step state (writes event) with
  | none =>
      rw [stepped] at together
      cases together
  | some next =>
      rw [stepped] at together
      cases together with
      | some relatedNext =>
          exact ⟨next, Machine.replay_cons.mpr ⟨next, stepped, rfl⟩, relatedNext⟩

/-- Two steps that map the outcome of one computation are in lockstep where the results
are related. -/
theorem rel_map {α : Type*} {outcome : Option α} {left : α → σ} {right : α → τ}
    (related : ∀ value, outcome = some value → Related (left value) (right value)) :
    Option.Rel Related (outcome.map left) (outcome.map right) := by
  cases outcome with
  | none => exact .none
  | some value => exact .some (related value rfl)

end Guac.Foundation
