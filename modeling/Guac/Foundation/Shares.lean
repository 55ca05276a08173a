import Mathlib.Algebra.BigOperators.Group.List.Basic
import Mathlib.Algebra.GroupWithZero.Nat

/-!
Owns shares of a sum: every item belongs to at most one key, and a key's share is what its
items are worth. The shares of some keys are at most the whole, and all of it where every
item belongs to one of them.

It names no program. The channels of a contract are shared by pairs of nodes.
-/

set_option autoImplicit false

namespace Guac.Foundation

variable {κ α : Type*} (owns : κ → α → Bool) (value : α → Nat)

/-- What the items of a key are worth. -/
def share (items : List α) (key : κ) : Nat := ((items.filter (owns key)).map value).sum

variable {owns value} {items : List α} {keys : List κ}

theorem share_add (items : List α) (key : κ) :
    share owns value items key +
        ((items.filter fun item => !owns key item).map value).sum = (items.map value).sum := by
  have split := List.sum_map_filter_add_sum_map_filter_not (fun item => owns key item = true)
    value items
  simpa only [share, Bool.decide_eq_true, Bool.not_eq_true, Bool.decide_eq_false] using split

/-- A key loses nothing when the items of another one are taken away. -/
theorem share_others {key other : κ} (apart : ∀ item ∈ items, owns other item = true →
    owns key item = false) :
    share owns value (items.filter fun item => !owns key item) other =
      share owns value items other := by
  unfold share
  rw [List.filter_filter]
  congr 2
  refine List.filter_congr fun item member => ?_
  cases theirs : owns other item with
  | false => rfl
  | true => rw [apart item member theirs]; rfl

/-- The shares of different keys and what belongs to none of them are the whole. -/
theorem shares_add (once : keys.Nodup)
    (single : ∀ item ∈ items, ∀ first second, owns first item = true →
      owns second item = true → first = second) :
    (keys.map (share owns value items)).sum +
        ((items.filter fun item => !keys.any fun key => owns key item).map value).sum =
      (items.map value).sum := by
  induction keys generalizing items with
  | nil => simp
  | cons key rest inductionHypothesis =>
      obtain ⟨absent, once⟩ := List.nodup_cons.mp once
      have others : ∀ other ∈ rest,
          share owns value (items.filter fun item => !owns key item) other =
            share owns value items other := by
        intro other member
        refine share_others fun item inItems theirs => Bool.eq_false_iff.mpr fun mine => ?_
        obtain rfl := single item inItems _ _ mine theirs
        exact absent member
      have remaining := @inductionHypothesis (items.filter fun item => !owns key item) once
        fun item member => single item (List.mem_filter.mp member).1
      have unowned (item : α) : ((!rest.any fun key => owns key item) && !owns key item) =
          !(key :: rest).any fun key => owns key item := by
        rw [List.any_cons, Bool.not_or, Bool.and_comm]
      rw [List.map_congr_left others, List.filter_filter] at remaining
      simp only [unowned] at remaining
      rw [List.map_cons, List.sum_cons, Nat.add_assoc, remaining, share_add]

theorem shares_le (once : keys.Nodup)
    (single : ∀ item ∈ items, ∀ first second, owns first item = true →
      owns second item = true → first = second) :
    (keys.map (share owns value items)).sum ≤ (items.map value).sum :=
  shares_add once single ▸ Nat.le_add_right _ _

theorem shares_eq (once : keys.Nodup)
    (single : ∀ item ∈ items, ∀ first second, owns first item = true →
      owns second item = true → first = second)
    (covered : ∀ item ∈ items, ∃ key ∈ keys, owns key item = true) :
    (keys.map (share owns value items)).sum = (items.map value).sum := by
  have none : (items.filter fun item => !keys.any fun key => owns key item) = [] := by
    refine List.filter_eq_nil_iff.mpr fun item member unowned => ?_
    rw [Bool.not_eq_true', List.any_eq_false] at unowned
    obtain ⟨key, inKeys, owned⟩ := covered item member
    exact unowned key inKeys owned
  rw [← shares_add once single, none]
  rfl

end Guac.Foundation
