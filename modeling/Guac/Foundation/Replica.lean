import Guac.Foundation.Side

/-!
Owns two copies of a value that two sides move in opposite directions. A side
gives: it moves its own copy in the other's favour and sends the result under a
new stamp. A side takes any sent value whose stamp is above its clock. Messages
may be lost, delayed, reordered and duplicated: a sent value stays takable.

The result is that the copies never cross, and that every takable value lies
between them.
-/

set_option autoImplicit false

namespace Guac.Foundation

/-- A sent value with its stamp. -/
structure Message (V : Type*) where
  stamp : Nat
  value : V

/-- The two copies, the two clocks, and everything each side ever sent. -/
structure Copies (V : Type*) where
  value : Side → V
  clock : Side → Nat
  sent : Side → List (Message V)

namespace Copies

variable {V : Type*}

/-- A side moves its copy to `value` and sends it under `stamp`. -/
def give (copies : Copies V) (side : Side) (stamp : Nat) (value : V) : Copies V where
  value := Function.update copies.value side value
  clock := Function.update copies.clock side stamp
  sent := Function.update copies.sent side (copies.sent side ++ [⟨stamp, value⟩])

/-- A side moves its copy to a message. -/
def take (copies : Copies V) (side : Side) (message : Message V) : Copies V where
  value := Function.update copies.value side message.value
  clock := Function.update copies.clock side message.stamp
  sent := copies.sent

section Ordered

variable [Preorder V]

/-- The copies are apart, and so is everything one side may still take. -/
structure Apart (copies : Copies V) : Prop where
  values : ∀ side : Side, side.le (copies.value side.other) (copies.value side)
  stamped : ∀ side : Side, ∀ message ∈ copies.sent side, message.stamp ≤ copies.clock side
  between : ∀ side : Side, ∀ message ∈ copies.sent side.other, copies.clock side < message.stamp →
    side.le (copies.value side.other) message.value ∧
      side.le message.value (copies.value side)
  sorted : ∀ side : Side, ∀ earlier ∈ copies.sent side.other, ∀ later ∈ copies.sent side.other,
    copies.clock side < earlier.stamp → earlier.stamp < later.stamp →
    side.le later.value earlier.value

theorem apart_start {copies : Copies V}
    (agreed : ∀ side : Side, copies.value side.other = copies.value side)
    (silent : ∀ side, copies.sent side = []) : copies.Apart where
  values side := agreed side ▸ side.le_refl _
  stamped side := by simp [silent]
  between side := by simp [silent]
  sorted side := by simp [silent]

theorem Apart.give {copies : Copies V} {side : Side} {stamp : Nat} {value : V}
    (apart : copies.Apart) (newer : copies.clock side < stamp)
    (gives : side.le (copies.value side) value) : (copies.give side stamp value).Apart := by
  have mine : (copies.give side stamp value).value side = value := Function.update_self ..
  have theirs : (copies.give side stamp value).value side.other = copies.value side.other :=
    Function.update_of_ne side.other_ne ..
  have myClock : (copies.give side stamp value).clock side = stamp := Function.update_self ..
  have theirClock : (copies.give side stamp value).clock side.other = copies.clock side.other :=
    Function.update_of_ne side.other_ne ..
  have mySent : (copies.give side stamp value).sent side =
      copies.sent side ++ [⟨stamp, value⟩] := Function.update_self ..
  have theirSent : (copies.give side stamp value).sent side.other = copies.sent side.other :=
    Function.update_of_ne side.other_ne ..
  have given : side.other.le value (copies.value side) := Side.other_le.mpr gives
  refine ⟨(side.forall_iff).mpr ⟨?_, ?_⟩, (side.forall_iff).mpr ⟨?_, ?_⟩,
    (side.forall_iff).mpr ⟨?_, ?_⟩, (side.forall_iff).mpr ⟨?_, ?_⟩⟩
  · rw [mine, theirs]
    exact (apart.values side).trans gives
  · rw [Side.other_other, mine, theirs]
    have values := apart.values side.other
    rw [Side.other_other] at values
    exact given.trans values
  · rw [mySent, myClock]
    intro message member
    rcases List.mem_append.mp member with before | last
    · exact Nat.le_trans (apart.stamped side message before) (Nat.le_of_lt newer)
    · obtain rfl := List.mem_singleton.mp last
      exact Nat.le_refl stamp
  · rw [theirSent, theirClock]
    exact apart.stamped side.other
  · -- what the other side sent and this side may still take
    rw [theirSent, myClock, mine, theirs]
    intro message member above
    obtain ⟨low, high⟩ := apart.between side message member (Nat.lt_trans newer above)
    exact ⟨low, high.trans gives⟩
  · -- what this side sent: the new message, and the old ones, whose bound moved
    rw [Side.other_other, mySent, theirClock, mine, theirs]
    intro message member above
    rcases List.mem_append.mp member with before | last
    · have bounds := apart.between side.other message (by rwa [Side.other_other]) above
      rw [Side.other_other] at bounds
      exact ⟨given.trans bounds.1, bounds.2⟩
    · obtain rfl := List.mem_singleton.mp last
      have values := apart.values side.other
      rw [Side.other_other] at values
      exact ⟨Side.le_refl _ value, given.trans values⟩
  · rw [theirSent, myClock]
    intro earlier firstMember later secondMember above
    exact apart.sorted side earlier firstMember later secondMember (Nat.lt_trans newer above)
  · rw [Side.other_other, mySent, theirClock]
    intro earlier firstMember later secondMember above before
    have stamped : ∀ message ∈ copies.sent side, message.stamp < stamp := fun message member =>
      Nat.lt_of_le_of_lt (apart.stamped side message member) newer
    rcases List.mem_append.mp firstMember with first | last
    · have old := apart.between side.other earlier (by rwa [Side.other_other]) above
      rw [Side.other_other] at old
      rcases List.mem_append.mp secondMember with second | last
      · exact apart.sorted side.other earlier (by rwa [Side.other_other]) later
          (by rwa [Side.other_other]) above before
      · obtain rfl := List.mem_singleton.mp last
        exact given.trans old.1
    · -- nothing was sent above the new stamp
      obtain rfl := List.mem_singleton.mp last
      rcases List.mem_append.mp secondMember with second | last
      · exact absurd before (Nat.not_lt.mpr (Nat.le_of_lt (stamped later second)))
      · obtain rfl := List.mem_singleton.mp last
        exact absurd before (Nat.lt_irrefl _)

/-- Taking a newer message keeps the copies apart: the other side can no longer
take anything this side sent. -/
theorem Apart.take {copies : Copies V} {side : Side} {message : Message V}
    (apart : copies.Apart) (sent : message ∈ copies.sent side.other)
    (newer : copies.clock side < message.stamp) : (copies.take side message).Apart := by
  have mine : (copies.take side message).value side = message.value := Function.update_self ..
  have theirs : (copies.take side message).value side.other = copies.value side.other :=
    Function.update_of_ne side.other_ne ..
  have myClock : (copies.take side message).clock side = message.stamp :=
    Function.update_self ..
  have theirClock : (copies.take side message).clock side.other = copies.clock side.other :=
    Function.update_of_ne side.other_ne ..
  have low := (apart.between side message sent newer).1
  have silenced : ∀ earlier ∈ copies.sent side, ¬ copies.clock side.other < earlier.stamp := by
    intro earlier member above
    have first := apart.stamped side earlier member
    have second := apart.stamped side.other message sent
    omega
  refine ⟨(side.forall_iff).mpr ⟨?_, ?_⟩, (side.forall_iff).mpr ⟨?_, ?_⟩,
    (side.forall_iff).mpr ⟨?_, ?_⟩, (side.forall_iff).mpr ⟨?_, ?_⟩⟩
  · rw [mine, theirs]
    exact low
  · rw [Side.other_other, mine, theirs]
    exact Side.other_le.mpr low
  · rw [myClock]
    intro earlier member
    exact Nat.le_of_lt (Nat.lt_of_le_of_lt (apart.stamped side earlier member) newer)
  · rw [theirClock]
    exact apart.stamped side.other
  · rw [myClock, mine, theirs]
    intro later member above
    have bounds := apart.between side later member (Nat.lt_trans newer above)
    exact ⟨bounds.1, apart.sorted side message sent later member newer above⟩
  · rw [Side.other_other, theirClock]
    intro earlier member above
    exact absurd above (silenced earlier member)
  · rw [myClock]
    intro earlier firstMember later secondMember above
    exact apart.sorted side earlier firstMember later secondMember (Nat.lt_trans newer above)
  · rw [Side.other_other, theirClock]
    intro earlier firstMember later _ above
    exact absurd above (silenced earlier firstMember)

end Ordered

end Copies

end Guac.Foundation
