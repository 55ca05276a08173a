import Mathlib.Order.Basic
import Mathlib.Logic.Function.Basic

/-!
Owns the two sides of a link: what is proved for one side and its other holds
for both. Each side has its own order on the values the two copies hold, and
the orders are opposite: what one side loses, the other gains.
-/

set_option autoImplicit false

namespace Guac.Foundation

inductive Side where
  | a
  | b
  deriving DecidableEq

namespace Side

def other : Side → Side
  | a => b
  | b => a

@[simp] theorem other_other (side : Side) : side.other.other = side := by
  cases side <;> rfl

theorem other_ne (side : Side) : side.other ≠ side := by
  cases side <;> exact nofun

theorem ne_other (side : Side) : side ≠ side.other := side.other_ne.symm

theorem eq_or_eq_other (side second : Side) : second = side ∨ second = side.other := by
  cases side <;> cases second <;> simp [other]

theorem forall_iff {Holds : Side → Prop} (side : Side) :
    (∀ second, Holds second) ↔ Holds side ∧ Holds side.other := by
  constructor
  · intro all
    exact ⟨all side, all side.other⟩
  · rintro ⟨this, that⟩ second
    rcases side.eq_or_eq_other second with rfl | rfl
    · exact this
    · exact that

instance (Holds : Side → Prop) [DecidablePred Holds] : Decidable (∀ side, Holds side) :=
  decidable_of_iff (Holds a ∧ Holds b) (forall_iff a).symm

section Order

variable {V : Type*} [Preorder V]

/-- The order of a side: `≤` for `a`, `≥` for `b`. -/
def le : Side → V → V → Prop
  | a, left, right => left ≤ right
  | b, left, right => right ≤ left

theorem le_refl (side : Side) (value : V) : side.le value value := by
  cases side <;> exact le_rfl

theorem le.trans {side : Side} {first second third : V} (left : side.le first second)
    (right : side.le second third) : side.le first third := by
  cases side
  · exact Preorder.le_trans _ _ _ left right
  · exact Preorder.le_trans _ _ _ right left

theorem other_le {side : Side} {left right : V} :
    side.other.le left right ↔ side.le right left := by
  cases side <;> exact Iff.rfl

end Order

end Side

end Guac.Foundation
