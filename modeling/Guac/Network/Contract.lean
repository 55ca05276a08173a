import Mathlib.Algebra.Order.BigOperators.Group.List
import Mathlib.Algebra.Order.Group.Nat
import Guac.Foundation.Shares
import Guac.Network.Pairs

/-!
Owns what a contract that many nodes share has locked altogether. Each of its channels
belongs to one pair of nodes, so whichever of the two entries of every channel is taken to
it, it can pay all of them at once.
-/

set_option autoImplicit false

namespace Guac

open Foundation

def Node.openTotal (node : Node) : Nat :=
  match node.entry with
  | some (.opened channel) => channel.total
  | _ => 0

/-- What the contract has locked in all channels. -/
def Chain.total (chain : Chain) : Nat :=
  (chain.opened.map fun opening => chain.locked opening.2).sum

namespace Mesh

variable {members : Members} {mesh : Mesh} {pair : Ends} {side : Side}

/-- What the contract has locked for two nodes. -/
def lockedFor (mesh : Mesh) : Ends → Nat :=
  share (fun pair opening => decide (pair.names opening.1))
    (fun opening => mesh.chain.locked opening.2) mesh.chain.opened

/-- The ledger of two nodes is their share of the contract. -/
theorem Sound.ledger_eq (sound : Sound members mesh) (pair : Ends) :
    (mesh.seen pair).chain.ledger = mesh.lockedFor pair := by
  have single := (sound.solvent pair).chained.single
  change _ = ((mesh.seen pair).chain.opened.map fun opening => mesh.chain.locked opening.2).sum
  unfold Chain.ledger
  cases shape : (mesh.seen pair).chain.opened with
  | nil => rfl
  | cons only rest =>
      rw [shape, List.length_cons] at single
      obtain rfl := List.length_eq_zero_iff.mp (Nat.le_zero.mp (Nat.le_of_succ_le_succ single))
      have member : only ∈ (mesh.chain.share pair).opened := by
        change only ∈ (mesh.seen pair).chain.opened
        rw [shape]
        exact List.mem_singleton.mpr rfl
      exact if_pos (hasOpened_of_share member)

theorem Sound.openTotal_of_open (sound : Sound members mesh) {channel : Channel}
    (entry : ((mesh.seen pair).node side).entry = some (.opened channel)) :
    ((mesh.seen pair).node side).openTotal = mesh.lockedFor pair := by
  have ledger := (sound.solvent pair).ledger_of_open entry
  rw [sound.ledger_eq] at ledger
  rw [ledger, Node.openTotal, entry]

theorem openTotal_eq_zero {node : Node}
    (closed : ∀ channel, node.entry ≠ some (.opened channel)) : node.openTotal = 0 := by
  unfold Node.openTotal
  split
  next channel entry => exact absurd entry (closed channel)
  next => rfl

theorem lockedFor_eq_zero (others : ∀ opening ∈ mesh.chain.opened, ¬ pair.names opening.1) :
    mesh.lockedFor pair = 0 := by
  have none : mesh.chain.opened.filter (fun opening => pair.names opening.1) = [] :=
    List.filter_eq_nil_iff.mpr fun opening member names =>
      others opening member (of_decide_eq_true names)
  rw [lockedFor, share, none]
  rfl

theorem names_single (mesh : Mesh) :
    ∀ opening ∈ mesh.chain.opened, ∀ first second : Ends,
      decide (first.names opening.1) = true → decide (second.names opening.1) = true →
        first = second := fun _ _ _ _ names otherNames =>
  Ends.names_unique (of_decide_eq_true names) (of_decide_eq_true otherNames)

/-- The contract covers what is stated to it: of every pair of nodes one entry, and all open
ones among them add up to no more than it has locked; to all it has locked, where an open
entry is taken for every channel. -/
theorem contract_covers {events : List MeshEvent}
    (replayed : (machine members).replay fresh events = some mesh) {pairs : List Ends}
    (once : pairs.Nodup) (side : Ends → Side) :
    (pairs.map fun pair => ((mesh.seen pair).node (side pair)).openTotal).sum ≤
        mesh.chain.total ∧
      ((∀ opening ∈ mesh.chain.opened, ∃ pair ∈ pairs, pair.names opening.1 ∧
          ∃ channel, ((mesh.seen pair).node (side pair)).entry = some (.opened channel)) →
        (pairs.map fun pair => ((mesh.seen pair).node (side pair)).openTotal).sum =
          mesh.chain.total) := by
  have sound := sound_of_replay replayed
  constructor
  · have shares : (pairs.map mesh.lockedFor).sum ≤ mesh.chain.total :=
      shares_le once mesh.names_single
    refine (List.sum_le_sum fun pair _ => ?_).trans shares
    by_cases opened : ∃ channel, ((mesh.seen pair).node (side pair)).entry = some (.opened channel)
    · obtain ⟨channel, entry⟩ := opened
      exact Nat.le_of_eq (sound.openTotal_of_open entry)
    · rw [openTotal_eq_zero (not_exists.mp opened)]
      exact Nat.zero_le _
  · intro covered
    have shares : (pairs.map mesh.lockedFor).sum = mesh.chain.total := by
      refine shares_eq once mesh.names_single fun opening member => ?_
      obtain ⟨pair, inPairs, names, -⟩ := covered opening member
      exact ⟨pair, inPairs, decide_eq_true names⟩
    rw [← shares]
    refine congrArg List.sum (List.map_congr_left fun pair _ => ?_)
    by_cases opened : ∃ channel, ((mesh.seen pair).node (side pair)).entry = some (.opened channel)
    · obtain ⟨channel, entry⟩ := opened
      exact sound.openTotal_of_open entry
    · have others : ∀ opening ∈ mesh.chain.opened, ¬ pair.names opening.1 := by
        intro opening member named
        obtain ⟨other, -, names, entry⟩ := covered opening member
        obtain rfl := Ends.names_unique names named
        exact opened entry
      rw [openTotal_eq_zero (not_exists.mp opened), lockedFor_eq_zero others]

/-- The entry of node 2 and that of node 1 for node 3 state all that the contract has locked
in channels 7 and 8. -/
theorem contract_covers_sample :
    ∃ mesh ∈ (machine Sample.members).replay fresh (Sample.openingTwo ++ Sample.openingThree),
      ((mesh.seen Sample.oneTwo).node .b).openTotal +
          ((mesh.seen Sample.oneThree).node .a).openTotal = mesh.chain.total ∧
        mesh.chain.total = 30 := by
  let side := fun pair => if pair = Sample.oneTwo then Side.b else .a
  obtain ⟨mesh, reached, covered, total⟩ :
      ∃ mesh ∈ (machine Sample.members).replay fresh (Sample.openingTwo ++ Sample.openingThree),
        (∀ opening ∈ mesh.chain.opened, ∃ pair ∈ [Sample.oneTwo, Sample.oneThree],
          pair.names opening.1 ∧ (((mesh.seen pair).node (side pair)).entry =
              some (.opened ⟨7, 0, 10, 0, 0, false⟩) ∨
            ((mesh.seen pair).node (side pair)).entry = some (.opened ⟨8, 0, 20, 0, 0, true⟩))) ∧
          mesh.chain.total = 30 := by
    decide +kernel
  have covers := (@contract_covers Sample.members mesh _ reached
    [Sample.oneTwo, Sample.oneThree] (by decide) side).2 fun opening member => by
      obtain ⟨pair, inPairs, names, entry | entry⟩ := covered opening member
      · exact ⟨pair, inPairs, names, _, entry⟩
      · exact ⟨pair, inPairs, names, _, entry⟩
  exact ⟨mesh, reached, covers, total⟩

end Mesh

end Guac
