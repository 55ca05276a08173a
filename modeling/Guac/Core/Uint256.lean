import Mathlib.Algebra.Ring.Nat
import Mathlib.Tactic.Common

/-!
Owns the 256-bit unsigned integers of the `num256` crate and the fixed-width
values that travel with them: addresses and 32-byte words. An addition or
subtraction that leaves `[0, 2^256)` panics in that crate, so `checkedAdd` and
`checkedSub` answer `none` there and their callers decide what `none` means.
-/

set_option autoImplicit false

namespace Guac

/-- A 20-byte Ethereum address, ordered as its big-endian value. -/
abbrev Address := BitVec 160

/-- A `[u8; 32]`: a channel id, a digest or a log topic. -/
abbrev Bytes32 := BitVec 256

/-- `num256::Uint256`: a natural number below `2^256`. -/
@[ext]
structure Uint256 where
  toNat : Nat
  isLt : toNat < 2 ^ 256
  deriving DecidableEq

namespace Uint256

/-- The number of values, `2^256`. -/
def size : Nat := 2 ^ 256

theorem toNat_lt (value : Uint256) : value.toNat < size := value.isLt

instance (literal : Nat) : OfNat Uint256 literal where
  ofNat := ⟨literal % 2 ^ 256, Nat.mod_lt _ (by decide)⟩

instance : LE Uint256 := ⟨fun left right => left.toNat ≤ right.toNat⟩

instance : LT Uint256 := ⟨fun left right => left.toNat < right.toNat⟩

instance (left right : Uint256) : Decidable (left ≤ right) :=
  inferInstanceAs (Decidable (left.toNat ≤ right.toNat))

instance (left right : Uint256) : Decidable (left < right) :=
  inferInstanceAs (Decidable (left.toNat < right.toNat))

theorem le_def (left right : Uint256) : left ≤ right ↔ left.toNat ≤ right.toNat := Iff.rfl

theorem lt_def (left right : Uint256) : left < right ↔ left.toNat < right.toNat := Iff.rfl

theorem eq_iff (left right : Uint256) : left = right ↔ left.toNat = right.toNat :=
  Uint256.ext_iff

@[simp] theorem toNat_zero : (0 : Uint256).toNat = 0 := rfl

/-- The sum, `none` from `2^256` on. -/
def checkedAdd (left right : Uint256) : Option Uint256 :=
  if fits : left.toNat + right.toNat < 2 ^ 256 then some ⟨left.toNat + right.toNat, fits⟩
  else none

/-- The difference, `none` below zero. -/
def checkedSub (left right : Uint256) : Option Uint256 :=
  if right.toNat ≤ left.toNat then
    some ⟨left.toNat - right.toNat, Nat.lt_of_le_of_lt (Nat.sub_le _ _) left.isLt⟩
  else none

theorem checkedAdd_eq_some {left right sum : Uint256} :
    left.checkedAdd right = some sum ↔ sum.toNat = left.toNat + right.toNat := by
  unfold checkedAdd
  by_cases fits : left.toNat + right.toNat < 2 ^ 256
  · rw [dif_pos fits, Option.some.injEq, eq_iff]
    exact eq_comm
  · rw [dif_neg fits]
    have bound := sum.isLt
    constructor
    · intro impossible
      cases impossible
    · intro equal
      omega

theorem checkedSub_eq_some {left right difference : Uint256} :
    left.checkedSub right = some difference ↔
      difference.toNat + right.toNat = left.toNat := by
  unfold checkedSub
  by_cases enough : right.toNat ≤ left.toNat
  · rw [if_pos enough, Option.some.injEq, eq_iff]
    constructor <;> intro equal <;> simp only at equal ⊢ <;> omega
  · rw [if_neg enough]
    constructor
    · intro impossible
      cases impossible
    · intro equal
      omega

theorem checkedSub_isSome_of_le {left right : Uint256} (enough : right.toNat ≤ left.toNat) :
    ∃ difference, left.checkedSub right = some difference := by
  unfold checkedSub
  rw [if_pos enough]
  exact ⟨_, rfl⟩

theorem checkedAdd_isSome_of_lt {left right : Uint256}
    (fits : left.toNat + right.toNat < size) : ∃ sum, left.checkedAdd right = some sum := by
  unfold checkedAdd
  rw [dif_pos (show left.toNat + right.toNat < 2 ^ 256 from fits)]
  exact ⟨_, rfl⟩

end Uint256

def Sample.largest : Uint256 := ⟨2 ^ 256 - 1, by decide⟩

end Guac
