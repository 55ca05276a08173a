import Guac.Foundation.Machine

/-!
Owns conditions that look back on what has happened: that something was started and has not
ended since, and that whatever happens meets a condition on what came before. What steps
start and end in a state can be read off the transitions alone, and where a condition on the
history decides of each step whether it stays clear, it decides of the run.

It names no program. The requests that cross between two nodes are an instance.
-/

set_option autoImplicit false

namespace Guac.Foundation

section Lists

variable {α : Type*} {starts ends : α → Prop} {taken : List α} {last : α}

/-- Something started, and nothing has ended it since. -/
def Since (starts ends : α → Prop) : List α → Prop
  | [] => False
  | first :: later => starts first ∧ (∀ next ∈ later, ¬ ends next) ∨ Since starts ends later

instance decidableSince (starts ends : α → Prop) [DecidablePred starts] [DecidablePred ends] :
    (taken : List α) → Decidable (Since starts ends taken)
  | [] => inferInstanceAs (Decidable False)
  | first :: later =>
      have := decidableSince starts ends later
      inferInstanceAs (Decidable (starts first ∧ (∀ next ∈ later, ¬ ends next) ∨
        Since starts ends later))

theorem since_snoc :
    Since starts ends (taken ++ [last]) ↔ starts last ∨ Since starts ends taken ∧ ¬ ends last := by
  induction taken with
  | nil => simp [Since]
  | cons first later inductionHypothesis =>
      rw [List.cons_append, Since, Since, inductionHypothesis, List.forall_mem_append,
        List.forall_mem_singleton]
      tauto

/-- Each item meets a condition on those before it. -/
def EachAfter (condition : List α → α → Prop) (taken : List α) : Prop :=
  ∀ index : Fin taken.length, condition (taken.take index) taken[index]

instance (condition : List α → α → Prop) [∀ earlier, DecidablePred (condition earlier)]
    (taken : List α) : Decidable (EachAfter condition taken) :=
  inferInstanceAs (Decidable (∀ index : Fin taken.length,
    condition (taken.take index) taken[index]))

theorem eachAfter_snoc {condition : List α → α → Prop} :
    EachAfter condition (taken ++ [last]) ↔ EachAfter condition taken ∧ condition taken last := by
  constructor
  · intro each
    constructor
    · intro index
      have meets := each ⟨index, by rw [List.length_append]; exact Nat.lt_add_right _ index.isLt⟩
      simpa [List.take_append_of_le_length index.isLt.le] using meets
    · have meets := each ⟨taken.length, by simp⟩
      simpa using meets
  · rintro ⟨each, meets⟩ ⟨index, inside⟩
    rcases Nat.lt_or_ge index taken.length with earlier | final
    · have inEarlier := each ⟨index, earlier⟩
      simpa [List.take_append_of_le_length earlier.le, List.getElem_append_left earlier]
        using inEarlier
    · rw [List.length_append, List.length_singleton] at inside
      obtain rfl : index = taken.length := by omega
      simpa using meets

end Lists

namespace Machine

variable {σ ε : Type*} {machine : Machine σ ε} {start state : σ}
  {taken : List (Transition σ ε)}

/-- A property that steps start and end, and that does not hold at first, holds where it was
started and has not ended since. -/
theorem Run.since_iff (run : machine.Run start taken state) (Holds : σ → Prop)
    (starts ends : Transition σ ε → Prop) (initial : ¬ Holds start)
    (exact : ∀ {taken : List (Transition σ ε)} {before after : σ} {event : ε},
      machine.Run start taken before → machine.step before event = some after →
      (Holds after ↔ starts ⟨before, event, after⟩ ∨
        Holds before ∧ ¬ ends ⟨before, event, after⟩)) :
    Since starts ends taken ↔ Holds state := by
  induction run with
  | nil => exact ⟨False.elim, initial⟩
  | snoc earlier stepped inductionHypothesis =>
      rw [since_snoc, inductionHypothesis, exact earlier stepped]

/-- Where a condition on the history decides of each step from a clear state whether it
leads to a clear one, a run stays clear exactly if each of its steps meets it. -/
theorem Run.stays_iff (run : machine.Run start taken state) (Clear : σ → Prop)
    (condition : List (Transition σ ε) → Transition σ ε → Prop) (initial : Clear start)
    (exact : ∀ {taken : List (Transition σ ε)} {before after : σ} {event : ε},
      machine.Run start taken before → machine.step before event = some after → Clear before →
      (Clear after ↔ condition taken ⟨before, event, after⟩)) :
    (∀ transition ∈ taken, Clear transition.after) ↔ EachAfter condition taken := by
  -- the state a clear run ends in is clear, which its next step is judged from
  suffices both : ((∀ transition ∈ taken, Clear transition.after) ↔ EachAfter condition taken) ∧
      ((∀ transition ∈ taken, Clear transition.after) → Clear state) from both.1
  induction run with
  | nil => exact ⟨⟨fun _ index => index.elim0, fun _ => by simp⟩, fun _ => initial⟩
  | snoc earlier stepped inductionHypothesis =>
      obtain ⟨same, clear⟩ := inductionHypothesis
      simp only [eachAfter_snoc, List.forall_mem_append, List.forall_mem_singleton, ← same]
      exact ⟨and_congr_right fun stays => exact earlier stepped (clear stays), And.right⟩

end Machine

end Guac.Foundation
