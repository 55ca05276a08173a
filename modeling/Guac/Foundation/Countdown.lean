import Guac.Foundation.Machine

/-!
Owns operations that come to their end under every schedule. As long as only
allowed events happen, every step brings the machine to a lower stage, a step is
possible at every stage but the last, and the result is emitted by the step that
reaches the last one. So no schedule runs on for ever or gets stuck, and each
emits the result once.
-/

set_option autoImplicit false

namespace Guac.Foundation

namespace Machine

variable {σ ε ρ : Type*}

/-- What the transitions of a replay emit, in turn. -/
def emitted (machine : Machine σ ε) (emits : σ → ε → Option ρ) (state : σ) (events : List ε) :
    List ρ :=
  (machine.trace state events).filterMap fun taken => emits taken.before taken.event

/-- Stages that the allowed events count down, to a result. -/
structure Countdown (machine : Machine σ ε) (Allowed : ε → Prop) (emits : σ → ε → Option ρ)
    (result : ρ) (Stage : ℕ → σ → Prop) : Prop where
  closer : ∀ {rank : ℕ} {state next : σ} {event : ε}, Stage rank state → Allowed event →
    machine.step state event = some next →
      ∃ lower < rank, Stage lower next ∧ emits state event = if lower = 0 then some result else none
  enabled : ∀ {rank : ℕ} {state : σ}, Stage rank state → rank ≠ 0 →
    ∃ event next, Allowed event ∧ machine.step state event = some next

variable {machine : Machine σ ε} {Allowed : ε → Prop} {emits : σ → ε → Option ρ} {result : ρ}
  {Stage : ℕ → σ → Prop} {rank : ℕ} {state after : σ} {events : List ε}

theorem emitted_cons {event : ε} {next : σ} (stepped : machine.step state event = some next) :
    machine.emitted emits state (event :: events) =
      (emits state event).toList ++ machine.emitted emits next events := by
  rw [emitted, trace, stepped]
  simp only [List.filterMap_cons]
  cases emits state event <;> rfl

theorem emitted_append {first second : List ε}
    (replayed : machine.replay state first = some after) :
    machine.emitted emits state (first ++ second) =
      machine.emitted emits state first ++ machine.emitted emits after second := by
  induction first generalizing state with
  | nil =>
      obtain rfl := Option.some.inj replayed
      rfl
  | cons event rest inductionHypothesis =>
      obtain ⟨next, stepped, replayed⟩ := replay_cons.mp replayed
      rw [List.cons_append, emitted_cons stepped, emitted_cons stepped,
        inductionHypothesis replayed, List.append_assoc]

/-- A replay of allowed events is a stage lower with every event, and emits the
result when it reaches the last stage. -/
theorem Countdown.replayed (countdown : Countdown machine Allowed emits result Stage)
    (stage : Stage rank state) (going : rank ≠ 0) (allowed : ∀ event ∈ events, Allowed event)
    (replay : machine.replay state events = some after) :
    ∃ lower, Stage lower after ∧ lower + events.length ≤ rank ∧
      machine.emitted emits state events = if lower = 0 then [result] else [] := by
  induction events generalizing rank state with
  | nil =>
      obtain rfl := Option.some.inj replay
      exact ⟨rank, stage, Nat.le_refl _, by rw [if_neg going]; rfl⟩
  | cons event rest inductionHypothesis =>
      obtain ⟨next, stepped, replay⟩ := replay_cons.mp replay
      obtain ⟨lower, below, reached, emission⟩ :=
        countdown.closer stage (allowed event List.mem_cons_self) stepped
      rw [emitted_cons stepped, emission]
      by_cases last : lower = 0
      · -- nothing is allowed at the last stage
        subst last
        cases rest with
        | nil =>
            obtain rfl := Option.some.inj replay
            exact ⟨0, reached, Nat.one_le_iff_ne_zero.mpr going, rfl⟩
        | cons second later =>
            obtain ⟨other, again, -⟩ := replay_cons.mp replay
            obtain ⟨_, impossible, -⟩ := countdown.closer reached
              (allowed second (List.mem_cons_of_mem _ List.mem_cons_self)) again
            exact absurd impossible (Nat.not_lt_zero _)
      · obtain ⟨final, ended, length, rest⟩ := inductionHypothesis reached last
          (fun event member => allowed event (List.mem_cons_of_mem _ member)) replay
        refine ⟨final, ended, ?_, ?_⟩
        · rw [List.length_cons]
          omega
        · rw [if_neg last, rest]
          rfl

theorem Countdown.finishes (countdown : Countdown machine Allowed emits result Stage)
    (stage : Stage rank state) :
    ∃ events final, (∀ event ∈ events, Allowed event) ∧
      machine.replay state events = some final ∧ Stage 0 final := by
  induction rank using Nat.strongRecOn generalizing state with
  | _ rank inductionHypothesis =>
      by_cases last : rank = 0
      · exact ⟨[], state, nofun, rfl, last ▸ stage⟩
      · obtain ⟨event, next, allows, stepped⟩ := countdown.enabled stage last
        obtain ⟨lower, below, reached, -⟩ := countdown.closer stage allows stepped
        obtain ⟨events, final, allowed, replay, ended⟩ := inductionHypothesis lower below reached
        refine ⟨event :: events, final, ?_, ?_, ended⟩
        · exact List.forall_mem_cons.mpr ⟨allows, allowed⟩
        · exact replay_cons.mpr ⟨next, stepped, replay⟩

/-- What a replay of allowed events has emitted, the result is all it emits by the
time it is over; and it can go on until then. -/
theorem Countdown.completes (countdown : Countdown machine Allowed emits result Stage)
    (stage : Stage rank state) (going : rank ≠ 0) (allowed : ∀ event ∈ events, Allowed event)
    (replay : machine.replay state events = some after) :
    ∃ rest final, (∀ event ∈ rest, Allowed event) ∧ machine.replay after rest = some final ∧
      Stage 0 final ∧ machine.emitted emits state (events ++ rest) = [result] := by
  obtain ⟨lower, reached, -, -⟩ := countdown.replayed stage going allowed replay
  obtain ⟨rest, final, allowedRest, replayRest, ended⟩ := countdown.finishes reached
  refine ⟨rest, final, allowedRest, replayRest, ended, ?_⟩
  have whole : machine.replay state (events ++ rest) = some final := by
    rw [replay_append, replay]
    exact replayRest
  have all : ∀ event ∈ events ++ rest, Allowed event :=
    List.forall_mem_append.mpr ⟨allowed, allowedRest⟩
  obtain ⟨last, reachedLast, -, emission⟩ := countdown.replayed stage going all whole
  by_cases isOver : last = 0
  · rw [emission, if_pos isOver]
  · obtain ⟨event, next, allows, stepped⟩ := countdown.enabled reachedLast isOver
    obtain ⟨_, impossible, -⟩ := countdown.closer ended allows stepped
    exact absurd impossible (Nat.not_lt_zero _)

end Machine

end Guac.Foundation
