import Mathlib.Data.List.Nodup
import Mathlib.Data.List.Range
import Mathlib.Tactic.Common

/-!
Owns tickets numbered by what has been served: a ticket takes for its number how many
were served when it looked, and tickets are served in the order of their numbers. A new
number is fresh exactly if the ticket saw every ticket issued before it served.

It names no program. The transactions of an account instantiate it.
-/

set_option autoImplicit false

namespace Guac.Foundation

variable {α : Type*}

/-- The tickets so far: those served carry consecutive numbers from `base` on, and every
issued one carries a number up to the next to be served. -/
structure Numbered (number : α → Nat) (base : Nat) (issued served : List α) : Prop where
  served_issued : ∀ ticket ∈ served, ticket ∈ issued
  consecutive : served.map number = List.range' base served.length
  base_le : ∀ ticket ∈ issued, base ≤ number ticket
  le_next : ∀ ticket ∈ issued, number ticket ≤ base + served.length

namespace Numbered

variable {number : α → Nat} {base : Nat} {issued served seen : List α} {ticket : α}

theorem empty (number : α → Nat) (base : Nat) : Numbered number base [] [] where
  served_issued := nofun
  consecutive := rfl
  base_le := nofun
  le_next := nofun

theorem consecutive_seen (numbered : Numbered number base issued served)
    (earlier : seen <+: served) : seen.map number = List.range' base seen.length := by
  obtain ⟨rest, rfl⟩ := earlier
  have all := numbered.consecutive
  rw [List.map_append, List.length_append, List.range'_append_1.symm] at all
  exact (List.append_inj all (by simp)).1

/-- A number is that of a beginning of what was served exactly if it lies below its end. -/
theorem mem_numbers_iff (numbered : Numbered number base issued served)
    (earlier : seen <+: served) {value : Nat} :
    value ∈ seen.map number ↔ base ≤ value ∧ value < base + seen.length := by
  rw [numbered.consecutive_seen earlier, List.mem_range'_1]

/-- A ticket that looks at `seen` gets a fresh number exactly if every issued ticket is
among those it saw. -/
theorem fresh_iff (numbered : Numbered number base issued served)
    (unique : (issued.map number).Nodup) (earlier : seen <+: served) :
    base + seen.length ∉ issued.map number ↔ ∀ ticket ∈ issued, ticket ∈ seen := by
  constructor
  · intro fresh ticket member
    have different : number ticket ≠ base + seen.length := fun same =>
      fresh (List.mem_map.mpr ⟨ticket, member, same⟩)
    -- a larger number would mean that the one it gets was served in the meantime
    have below : number ticket < base + seen.length := by
      by_contra above
      have next : base + seen.length ∈ served.map number := by
        rw [numbered.mem_numbers_iff (List.prefix_refl served)]
        have bound := numbered.le_next ticket member
        omega
      obtain ⟨other, inside, same⟩ := List.mem_map.mp next
      exact fresh (List.mem_map.mpr ⟨other, numbered.served_issued other inside, same⟩)
    have numberSeen : number ticket ∈ seen.map number :=
      (numbered.mem_numbers_iff earlier).mpr ⟨numbered.base_le ticket member, below⟩
    obtain ⟨other, inside, same⟩ := List.mem_map.mp numberSeen
    have otherIssued := numbered.served_issued other (earlier.subset inside)
    obtain rfl := List.inj_on_of_nodup_map unique otherIssued member same
    exact inside
  · intro allSeen taken
    obtain ⟨ticket, member, same⟩ := List.mem_map.mp taken
    have numberSeen : number ticket ∈ seen.map number :=
      List.mem_map.mpr ⟨ticket, allSeen ticket member, rfl⟩
    have below := ((numbered.mem_numbers_iff earlier).mp numberSeen).2
    omega

theorem issue (numbered : Numbered number base issued served) (earlier : seen <+: served)
    (same : number ticket = base + seen.length) :
    Numbered number base (issued ++ [ticket]) served where
  served_issued := fun other member =>
    List.mem_append_left _ (numbered.served_issued other member)
  consecutive := numbered.consecutive
  base_le := by
    simp only [List.forall_mem_append, List.forall_mem_singleton]
    exact ⟨numbered.base_le, by omega⟩
  le_next := by
    simp only [List.forall_mem_append, List.forall_mem_singleton]
    exact ⟨numbered.le_next, same ▸ Nat.add_le_add_left earlier.length_le base⟩

theorem serve (numbered : Numbered number base issued served) (member : ticket ∈ issued)
    (turn : number ticket = base + served.length) :
    Numbered number base issued (served ++ [ticket]) where
  served_issued := by
    simp only [List.forall_mem_append, List.forall_mem_singleton]
    exact ⟨numbered.served_issued, member⟩
  consecutive := by
    rw [List.map_append, numbered.consecutive, List.map_singleton, turn, List.length_append,
      List.length_singleton, List.range'_1_concat]
  base_le := numbered.base_le
  le_next := fun other issued => by
    have bound := numbered.le_next other issued
    rw [List.length_append]
    omega

end Numbered

end Guac.Foundation
