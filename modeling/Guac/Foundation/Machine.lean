import Mathlib.Algebra.BigOperators.Group.List.Basic
import Mathlib.Algebra.Ring.Nat
import Mathlib.Data.List.Induction
import Mathlib.Tactic.Common

/-!
Owns guarded transition systems: a machine is an executable step function that
answers `none` where an event is disabled, a run is the list of transitions it
took, and an invariant is carried along a run by one step lemma. The guard form
carries an invariant along the runs whose every transition meets a condition. What
every transition gains and spends, and what none of them lowers, adds up along a run.

It names no program. The models of the node, of the pair of nodes and of the
bare payment protocol instantiate it.
-/

set_option autoImplicit false

namespace Guac.Foundation

universe u v

/-- A guarded step function: `step s e` is `none` where `e` is disabled in `s`. -/
structure Machine (σ : Type u) (ε : Type v) where
  step : σ → ε → Option σ

/-- One taken step: the state it left, its event and the state it reached. -/
structure Transition (σ : Type u) (ε : Type v) where
  before : σ
  event : ε
  after : σ

namespace Machine

variable {σ : Type u} {ε : Type v} (machine : Machine σ ε)

/-- Replay a list of events; `none` if one of them is disabled on the way. -/
def replay : σ → List ε → Option σ
  | state, [] => some state
  | state, event :: rest =>
      match machine.step state event with
      | none => none
      | some next => replay next rest

/-- The transitions of a replay, up to the first disabled event. -/
def trace : σ → List ε → List (Transition σ ε)
  | _, [] => []
  | state, event :: rest =>
      match machine.step state event with
      | none => []
      | some next => ⟨state, event, next⟩ :: trace next rest

/-- The runs from `start`: the transitions taken so far and the state reached. -/
inductive Run (start : σ) : List (Transition σ ε) → σ → Prop
  | nil : Run start [] start
  | snoc {taken : List (Transition σ ε)} {state next : σ} {event : ε} :
      Run start taken state → machine.step state event = some next →
      Run start (taken ++ [⟨state, event, next⟩]) next

variable {machine}

theorem Run.step_of_mem {start state : σ} {taken : List (Transition σ ε)}
    (run : machine.Run start taken state) :
    ∀ transition ∈ taken,
      machine.step transition.before transition.event = some transition.after := by
  induction run with
  | nil => simp
  | snoc _ stepped inductionHypothesis =>
      intro transition member
      rcases List.mem_append.mp member with earlier | last
      · exact inductionHypothesis transition earlier
      · obtain rfl := List.mem_singleton.mp last
        exact stepped

/-- The guarded invariant rule: what holds at the start and is kept by every
step that meets the guard holds after every run whose transitions all meet it. -/
theorem Run.invariant_of_guard {start state : σ} {taken : List (Transition σ ε)}
    (run : machine.Run start taken state) (Holds : σ → Prop) (Guard : σ → ε → Prop)
    (initial : Holds start)
    (kept : ∀ before event after, Holds before → Guard before event →
      machine.step before event = some after → Holds after)
    (guarded : ∀ transition ∈ taken, Guard transition.before transition.event) :
    Holds state := by
  induction run with
  | nil => exact initial
  | snoc _ stepped inductionHypothesis =>
      have earlier := inductionHypothesis fun transition member =>
        guarded transition (List.mem_append_left _ member)
      have last := guarded _ (List.mem_append_right _ (List.mem_singleton.mpr rfl))
      exact kept _ _ _ earlier last stepped

/-- The invariant rule. -/
theorem Run.invariant {start state : σ} {taken : List (Transition σ ε)}
    (run : machine.Run start taken state) (Holds : σ → Prop) (initial : Holds start)
    (kept : ∀ before event after, Holds before →
      machine.step before event = some after → Holds after) : Holds state :=
  run.invariant_of_guard Holds (fun _ _ => True) initial
    (fun before event after holds _ => kept before event after holds) (by simp)

theorem Run.before_of_guard {start state : σ} {taken : List (Transition σ ε)}
    (run : machine.Run start taken state) (Holds : σ → Prop) (Guard : σ → ε → Prop)
    (initial : Holds start)
    (kept : ∀ before event after, Holds before → Guard before event →
      machine.step before event = some after → Holds after)
    (guarded : ∀ transition ∈ taken, Guard transition.before transition.event) :
    ∀ transition ∈ taken, Holds transition.before := by
  induction run with
  | nil => simp
  | snoc earlier _ inductionHypothesis =>
      have guardedEarlier := fun transition member =>
        guarded transition (List.mem_append_left _ member)
      intro transition member
      rcases List.mem_append.mp member with inside | last
      · exact inductionHypothesis guardedEarlier transition inside
      · obtain rfl := List.mem_singleton.mp last
        exact earlier.invariant_of_guard Holds Guard initial kept guardedEarlier

theorem Run.before {start state : σ} {taken : List (Transition σ ε)}
    (run : machine.Run start taken state) (Holds : σ → Prop) (initial : Holds start)
    (kept : ∀ before event after, Holds before →
      machine.step before event = some after → Holds after) :
    ∀ transition ∈ taken, Holds transition.before :=
  run.before_of_guard Holds (fun _ _ => True) initial
    (fun before event after holds _ => kept before event after holds) (by simp)

/-- The equivalence rule: where, under an invariant, a transition is good exactly if it
meets a condition, and meeting it keeps the invariant, all transitions of a run are good
exactly if all of them meet the condition. -/
theorem Run.forall_iff {start state : σ} {taken : List (Transition σ ε)}
    (run : machine.Run start taken state) (Holds : σ → Prop) (Good Meets : Transition σ ε → Prop)
    (initial : Holds start)
    (exact : ∀ transition, Holds transition.before →
      machine.step transition.before transition.event = some transition.after →
      (Good transition ↔ Meets transition))
    (kept : ∀ transition, Holds transition.before →
      machine.step transition.before transition.event = some transition.after →
      Meets transition → Holds transition.after) :
    (∀ transition ∈ taken, Good transition) ↔ ∀ transition ∈ taken, Meets transition := by
  suffices both : ((∀ transition ∈ taken, Good transition) ↔
      ∀ transition ∈ taken, Meets transition) ∧
      ((∀ transition ∈ taken, Meets transition) → Holds state) from both.1
  induction run with
  | nil => exact ⟨by simp, fun _ => initial⟩
  | @snoc taken state next event _ stepped inductionHypothesis =>
      obtain ⟨earlier, holds⟩ := inductionHypothesis
      simp only [List.forall_mem_append, List.forall_mem_singleton, earlier]
      refine ⟨and_congr_right fun meets => exact ⟨state, event, next⟩ (holds meets) stepped, ?_⟩
      rintro ⟨meets, last⟩
      exact kept ⟨state, event, next⟩ (holds meets) stepped last

theorem Run.trans {start middle state : σ} {first second : List (Transition σ ε)}
    (left : machine.Run start first middle) (right : machine.Run middle second state) :
    machine.Run start (first ++ second) state := by
  induction right with
  | nil => simpa using left
  | snoc _ stepped inductionHypothesis =>
      rw [← List.append_assoc]
      exact .snoc inductionHypothesis stepped

theorem run_of_replay {start state : σ} {events : List ε}
    (replayed : machine.replay start events = some state) :
    machine.Run start (machine.trace start events) state := by
  induction events generalizing start with
  | nil =>
      obtain rfl := Option.some.inj replayed
      exact .nil
  | cons event rest inductionHypothesis =>
      rw [replay] at replayed
      rw [trace]
      cases stepped : machine.step start event with
      | none => simp [stepped] at replayed
      | some next =>
          rw [stepped] at replayed
          have first : machine.Run start ([] ++ [⟨start, event, next⟩]) next :=
            .snoc .nil stepped
          exact first.trans (inductionHypothesis replayed)

theorem replay_cons {start state : σ} {event : ε} {rest : List ε} :
    machine.replay start (event :: rest) = some state ↔
      ∃ next, machine.step start event = some next ∧ machine.replay next rest = some state := by
  rw [replay]
  cases machine.step start event <;> simp

theorem replay_append (start : σ) (first second : List ε) :
    machine.replay start (first ++ second) =
      (machine.replay start first).bind fun middle => machine.replay middle second := by
  induction first generalizing start with
  | nil => rfl
  | cons event rest inductionHypothesis =>
      rw [List.cons_append, replay, replay]
      cases machine.step start event with
      | none => rfl
      | some next => exact inductionHypothesis next

/-- The history rule: what relates the events so far to the state they reached, and is kept
by every step, relates the events of a replay to its state. -/
theorem history_of_replay {start state : σ} {events : List ε} (Holds : List ε → σ → Prop)
    (initial : Holds [] start)
    (kept : ∀ history before event after, Holds history before →
      machine.step before event = some after → Holds (history ++ [event]) after)
    (replayed : machine.replay start events = some state) : Holds events state := by
  induction events using List.reverseRecOn generalizing state with
  | nil =>
      obtain rfl := Option.some.inj replayed
      exact initial
  | append_singleton earlier event inductionHypothesis =>
      rw [replay_append] at replayed
      obtain ⟨middle, first, second⟩ := Option.bind_eq_some_iff.mp replayed
      obtain ⟨next, stepped, rest⟩ := replay_cons.mp second
      obtain rfl := Option.some.inj rest
      exact kept _ _ _ _ (inductionHypothesis first) stepped

theorem Run.split {start state : σ} {before after : List (Transition σ ε)}
    {transition : Transition σ ε}
    (run : machine.Run start (before ++ transition :: after) state) :
    machine.Run start before transition.before ∧
      machine.step transition.before transition.event = some transition.after ∧
      machine.Run transition.after after state := by
  induction after using List.reverseRecOn generalizing state with
  | nil =>
      generalize shape : before ++ [transition] = taken at run
      cases run with
      | nil => simp at shape
      | snoc earlier stepped =>
          obtain ⟨rfl, same⟩ := List.append_inj' shape rfl
          obtain rfl := List.singleton_inj.mp same
          exact ⟨earlier, stepped, .nil⟩
  | append_singleton rest last inductionHypothesis =>
      generalize shape : before ++ transition :: (rest ++ [last]) = taken at run
      cases run with
      | nil => simp at shape
      | snoc earlier stepped =>
          rw [← List.cons_append, ← List.append_assoc] at shape
          obtain ⟨rfl, same⟩ := List.append_inj' shape rfl
          obtain rfl := List.singleton_inj.mp same
          obtain ⟨left, step, right⟩ := inductionHypothesis earlier
          exact ⟨left, step, .snoc right stepped⟩

/-! ### What adds up along a run -/

/-- The ledger rule: where every transition gains and spends what it says, so does
the run. -/
theorem Run.balance {start state : σ} {taken : List (Transition σ ε)}
    (run : machine.Run start taken state) (held : σ → Nat) (gained spent : Transition σ ε → Nat)
    (balanced : ∀ transition ∈ taken,
      held transition.after + spent transition = held transition.before + gained transition) :
    held state + (taken.map spent).sum = held start + (taken.map gained).sum := by
  induction run with
  | nil => rfl
  | snoc _ _ inductionHypothesis =>
      have earlier := inductionHypothesis fun transition member =>
        balanced transition (List.mem_append_left _ member)
      have last := balanced _ (List.mem_append_right _ (List.mem_singleton.mpr rfl))
      simp only [List.map_append, List.sum_append, List.map_singleton, List.sum_singleton]
      simp only at last
      omega

theorem Run.grows {start state : σ} {taken : List (Transition σ ε)}
    (run : machine.Run start taken state) {V : Type*} [Preorder V] (value : σ → V)
    (grows : ∀ transition ∈ taken, value transition.before ≤ value transition.after) :
    value start ≤ value state := by
  induction run with
  | nil => exact le_refl _
  | snoc _ _ inductionHypothesis =>
      have earlier := inductionHypothesis fun transition member =>
        grows transition (List.mem_append_left _ member)
      exact earlier.trans (grows _ (List.mem_append_right _ (List.mem_singleton.mpr rfl)))

theorem Run.pairwise_grows {start state : σ} {taken : List (Transition σ ε)}
    (run : machine.Run start taken state) {V : Type*} [Preorder V] (value : σ → V)
    (grows : ∀ transition ∈ taken, value transition.before ≤ value transition.after) :
    taken.Pairwise fun earlier later => value earlier.after ≤ value later.before := by
  induction run with
  | nil => exact .nil
  | @snoc taken state next event earlier stepped inductionHypothesis =>
      have inside := fun transition member => grows transition (List.mem_append_left _ member)
      refine List.pairwise_append.mpr ⟨inductionHypothesis inside, List.pairwise_singleton _ _, ?_⟩
      intro transition member last isLast
      obtain rfl := List.mem_singleton.mp isLast
      obtain ⟨front, rest, rfl⟩ := List.append_of_mem member
      obtain ⟨-, -, onward⟩ := earlier.split
      exact onward.grows value fun later laterMember =>
        inside later (List.mem_append_right _ (List.mem_cons_of_mem _ laterMember))

end Machine

end Guac.Foundation
