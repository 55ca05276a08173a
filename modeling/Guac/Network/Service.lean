import Guac.Network.Completion
import Guac.Network.PacketLoss

/-!
Owns what an honest peer makes of a valid operation. On two copies of a channel
that agree, every fill, withdrawal and payment runs to its `Ok`; and where every
fill does, on either side, the copies agree. So the operations are served for as
long as no redraw is completed by the node that proposed it.
-/

set_option autoImplicit false

namespace Guac

open Foundation

/-- The next sequence number is one, and so is the accrual of the peer after a payment
of everything. -/
structure Channel.Spacious (mine theirs : Channel) : Prop where
  total : mine.total < Uint256.size
  counts : mine.sequenceNumber.toNat + 1 < Uint256.size
  accrues : theirs.accrual.toNat + mine.myBalance.toNat < Uint256.size

instance (mine theirs : Channel) : Decidable (mine.Spacious theirs) :=
  decidable_of_iff (mine.total < Uint256.size ∧
      mine.sequenceNumber.toNat + 1 < Uint256.size ∧
      theirs.accrual.toNat + mine.myBalance.toNat < Uint256.size)
    ⟨fun ⟨total, counts, accrues⟩ => ⟨total, counts, accrues⟩,
      fun ⟨total, counts, accrues⟩ => ⟨total, counts, accrues⟩⟩

theorem Channel.toUpdate_myBalance {paid theirs : Channel}
    (roles : paid.iAm0 = !theirs.iAm0) :
    paid.toUpdate.myBalance theirs.iAm0 = paid.theirBalance := by
  rw [UpdateTx.myBalance, Channel.theirBalance, roles]
  cases theirs.iAm0 <;> rfl

namespace Network

section Copies

variable {mine theirs : Channel} {kind : ReDrawKind} {amount : Uint256}

/-- Between copies that agree, a valid redraw is in order. -/
theorem ReDrawInOrder.of_agrees (agrees : mine.Agrees theirs) (roles : mine.iAm0 = !theirs.iAm0)
    (spacious : mine.Spacious theirs) {newBalance0 newBalance1 : Uint256}
    (balances : reDrawBalances kind mine amount = .ok (newBalance0, newBalance1)) :
    ReDrawInOrder mine theirs kind amount newBalance0 newBalance1 where
  balances := balances
  counts := spacious.counts
  checked tx proposes := by
    refine ⟨proposes.channelId.trans agrees.channelId, ?_,
      proposes.oldBalance0.trans agrees.balance0, proposes.oldBalance1.trans agrees.balance1, ?_⟩
    · rw [Uint256.lt_def, proposes.sequenceNumber, agrees.sequenceNumber]
      exact Nat.lt_succ_self _
    · have kept := reDrawBalances_other balances
      rw [roles] at kept
      rw [proposes.newBalance0, proposes.newBalance1, Channel.myBalance]
      cases role : theirs.iAm0
      · simp only [role, Bool.not_false, if_true] at kept
        simp only [Bool.false_eq_true, if_false]
        exact kept.trans agrees.balance1
      · simp only [role, Bool.not_true, Bool.false_eq_true, if_false] at kept
        simp only [if_true]
        exact kept.trans agrees.balance0

theorem PaymentInOrder.of_agrees (agrees : mine.Agrees theirs) (roles : mine.iAm0 = !theirs.iAm0)
    (spacious : mine.Spacious theirs) (enough : amount.toNat ≤ mine.myBalance.toNat) :
    ∃ paid, PaymentInOrder mine theirs amount paid := by
  obtain ⟨total, counts, accrues⟩ := spacious
  have mirrors : mine.Mirrors theirs := ⟨roles, agrees.balance0, agrees.balance1⟩
  have totals := mine.total_eq
  obtain ⟨paid, made⟩ := @Channel.makePayment_succeeds mine amount none enough counts (by omega)
  have pays := (Channel.makePayment_ok made).1
  have attempt : mine.Attempt amount (.paymentReply amount paid) paid := .first pays
  have states := Channel.toUpdate_myBalance (pays.iAm0.trans roles)
  have gives := pays.theirs
  rw [mirrors.theirBalance] at gives
  have same : theirs.total = mine.total := by
    rw [Channel.total, Channel.total, agrees.balance0, agrees.balance1]
  refine ⟨paid, made, ⟨agrees.newer pays rfl, ?_, ?_, attempt.keeps rfl mirrors, ?_⟩, roles⟩
  · exact pays.total.trans same.symm
  · rw [same]
    exact total
  · rw [states]
    omega

end Copies

section Definitions

variable (parties : Side → Crypto)

/-- Whatever the schedule, if nothing disturbs it, the operation comes to its end and
returns `Ok`. -/
structure Serves (network : Network) (side : Side) (op : UserOp) : Prop where
  starts : ∃ after, network.step parties (.start side op) = some after
  bounded : ∃ bound, ∀ events after, (∀ event ∈ events, event.undisturbed = true) →
    (machine parties).replay network (.start side op :: events) = some after →
      events.length ≤ bound
  returnsOk : ∀ events after, (∀ event ∈ events, event.undisturbed = true) →
    (machine parties).replay network (.start side op :: events) = some after →
      ∃ rest final, (∀ event ∈ rest, event.undisturbed = true) ∧
        (machine parties).replay after rest = some final ∧ final.Quiescent ∧
        (machine parties).emitted (returns parties side) network
          (.start side op :: (events ++ rest)) = [.ok .unit]

/-- If the nodes are at rest and both open, they serve every valid operation. -/
def ServesAtRest (network : Network) : Prop :=
  network.Quiescent → ∀ side mine theirs, (network.node side).entry = some (.opened mine) →
    (network.node side.other).entry = some (.opened theirs) →
      ∀ op : UserOp, op.Valid mine → Serves parties network side op

end Definitions

/-- If the nodes are at rest and both open, the numbers they store leave room. -/
def SpaciousAtRest (network : Network) : Prop :=
  network.Quiescent → ∀ side, ∀ mine ∈ (network.node side).openChannel,
    ∀ theirs ∈ (network.node side.other).openChannel, mine.Spacious theirs

instance (network : Network) : Decidable network.SpaciousAtRest :=
  decidable_of_iff (network.Quiescent →
      (∀ mine ∈ (network.node .a).openChannel,
        ∀ theirs ∈ (network.node .b).openChannel, mine.Spacious theirs) ∧
      ∀ mine ∈ (network.node .b).openChannel,
        ∀ theirs ∈ (network.node .a).openChannel, mine.Spacious theirs)
    (imp_congr_right fun _ => (@Side.forall_iff (fun side =>
      ∀ mine ∈ (network.node side).openChannel,
        ∀ theirs ∈ (network.node side.other).openChannel, mine.Spacious theirs) .a).symm)

variable {parties : Side → Crypto} {network next : Network} {side : Side} {op : UserOp}
  {mine theirs : Channel}

theorem serves_of_countdown {Stage : ℕ → Network → Prop} {rank : ℕ}
    (countdown : (machine parties).Countdown (fun event => event.undisturbed = true)
      (returns parties side) (.ok .unit) Stage)
    (ends : ∀ final, Stage 0 final → final.Quiescent)
    (stepped : network.step parties (.start side op) = some next)
    (silent : network.returns parties side (.start side op) = none)
    (stage : Stage rank next) (going : rank ≠ 0) : Serves parties network side op where
  starts := ⟨next, stepped⟩
  bounded := by
    refine ⟨rank, fun events after allowed replay => ?_⟩
    obtain ⟨other, same, replay⟩ := Machine.replay_cons.mp replay
    obtain rfl := Option.some.inj (stepped.symm.trans same)
    obtain ⟨_, -, length, -⟩ := countdown.replayed stage going allowed replay
    omega
  returnsOk := by
    intro events after allowed replay
    obtain ⟨other, same, replay⟩ := Machine.replay_cons.mp replay
    obtain rfl := Option.some.inj (stepped.symm.trans same)
    obtain ⟨rest, final, allowedRest, replayRest, ended, emission⟩ :=
      countdown.completes stage going allowed replay
    refine ⟨rest, final, allowedRest, replayRest, ends final ended, ?_⟩
    rw [Machine.emitted_cons stepped, silent, emission]
    rfl

theorem ReDrawInOrder.serves {kind : ReDrawKind} {amount newBalance0 newBalance1 : Uint256}
    (inOrder : ReDrawInOrder mine theirs kind amount newBalance0 newBalance1)
    (compatible : Compatible parties) (solvent : Solvent parties network)
    (shows : network.Shows side (kind.op amount) (some (.opened mine)) (some (.opened theirs))
      .atRest) : Serves parties network side (kind.op amount) := by
  obtain ⟨stepped, silent, asking⟩ := shows.start parties
    (start_reDraw inOrder.balances)
  refine serves_of_countdown (inOrder.countdown compatible) ?_ stepped silent
    ⟨solvent.step stepped, .block asking⟩ (by decide)
  rintro final ⟨-, done⟩
  cases done with
  | done shows => exact shows.quiescent

theorem PaymentInOrder.serves {amount : Uint256} {paid : Channel}
    (inOrder : PaymentInOrder mine theirs amount paid)
    (compatible : Compatible parties) (solvent : Solvent parties network)
    (shows : network.Shows side (.makePayment amount) (some (.opened mine)) (some (.opened theirs))
      .atRest) : Serves parties network side (.makePayment amount) := by
  obtain ⟨stepped, silent, sent⟩ := shows.start parties
    (makePayment_eq inOrder.made)
  refine serves_of_countdown (inOrder.countdown compatible) ?_ stepped silent
    ⟨solvent.step stepped, .sent sent⟩ (by decide)
  rintro final ⟨-, done⟩
  cases done with
  | done _ shows => exact shows.quiescent

/-- Between copies that agree, every valid operation is served. -/
theorem serves_of_agrees (solvent : Solvent parties network) (compatible : Compatible parties)
    (shows : network.Shows side op (some (.opened mine)) (some (.opened theirs)) .atRest)
    (agrees : mine.Agrees theirs) (roles : mine.iAm0 = !theirs.iAm0)
    (spacious : mine.Spacious theirs) (valid : op.Valid mine) :
    Serves parties network side op := by
  have redraws : ∀ (kind : ReDrawKind) amount, op = kind.op amount →
      Serves parties network side op := by
    rintro kind amount rfl
    obtain ⟨_, _, balances⟩ := reDrawBalances_succeeds valid
    exact (ReDrawInOrder.of_agrees agrees roles spacious balances).serves compatible solvent shows
  cases op with
  | fillChannel amount => exact redraws .fill amount rfl
  | withdraw amount => exact redraws .withdraw amount rfl
  | makePayment amount =>
      obtain ⟨paid, inOrder⟩ := PaymentInOrder.of_agrees agrees roles spacious valid
      exact inOrder.serves compatible solvent shows
  | checkAccrual => exact valid.elim

theorem Serves.checked {kind : ReDrawKind} {amount newBalance0 newBalance1 : Uint256}
    (serves : Serves parties network side (kind.op amount))
    (shows : network.Shows side (kind.op amount) (some (.opened mine)) (some (.opened theirs))
      .atRest)
    (balances : reDrawBalances kind mine amount = .ok (newBalance0, newBalance1))
    (counts : mine.sequenceNumber.toNat + 1 < Uint256.size) :
    ∃ tx, Proposes mine newBalance0 newBalance1 tx ∧ ReDrawOk theirs tx := by
  obtain ⟨tx, proposes, polled⟩ := @reDrawOnBlock_eq kind amount mine newBalance0 newBalance1
    (some (.opened mine)) 0 counts (by decide)
  refine ⟨tx, proposes, ?_⟩
  rw [← checkReDrawTx_ok]
  cases checked : checkReDrawTx theirs tx with
  | ok passed => rfl
  | error fault =>
      -- the operation returns the refusal
      obtain ⟨started, silent, asking⟩ := shows.start parties
        (start_reDraw balances)
      obtain ⟨confirmed, quiet, sent⟩ :=
        asking.confirm parties (.ok (.block 0)) rfl (congrArg some polled)
      have refused : (Request.proposeReDraw tx).start (parties side.other) (parties side).ownAddress
          (some (.opened theirs)) = .fail (some (.opened theirs)) fault := by
        simp only [Request.start, proposeReDraw, withCounterparty, checkForCounterparty, okOr,
          checked]
      have delivered := sent.deliver parties refused
      have answered := sent.served (.fail (some (.opened theirs)) fault) rfl rfl rfl
      obtain ⟨replied, returned, -⟩ := answered.reply parties rfl
      obtain ⟨rest, -, -, -, -, emission⟩ := serves.returnsOk
        [.answerChain side (.ok (.block 0)), .deliver side, .reply side] _
        (by cases side <;> decide)
        (Machine.replay_cons.mpr ⟨_, started, Machine.replay_cons.mpr ⟨_, confirmed,
          Machine.replay_cons.mpr ⟨_, delivered, Machine.replay_cons.mpr ⟨_, replied, rfl⟩⟩⟩⟩)
      simp only [List.cons_append] at emission
      rw [Machine.emitted_cons started, Machine.emitted_cons confirmed,
        Machine.emitted_cons delivered, Machine.emitted_cons replied, silent, quiet, returned]
        at emission
      cases emission

/-- Nodes that serve every valid operation agree. -/
theorem ServesAtRest.agrees (serves : network.ServesAtRest parties)
    (distinct : (parties .a).ownAddress ≠ (parties .b).ownAddress)
    (sound : Sound parties network) (spacious : network.SpaciousAtRest) :
    network.AgreesAtRest := by
  intro quiescent side mine theirs opened others
  have checked : ∀ side mine theirs, (network.node side).entry = some (.opened mine) →
      (network.node side.other).entry = some (.opened theirs) →
        ∃ newBalance0 newBalance1 tx, Proposes mine newBalance0 newBalance1 tx ∧
          ReDrawOk theirs tx := by
    intro side mine theirs opened others
    obtain ⟨total, counts, -⟩ := spacious quiescent side mine
      (Node.openChannel_eq_some.mpr opened) theirs (Node.openChannel_eq_some.mpr others)
    obtain ⟨newBalance0, newBalance1, balances⟩ := @reDrawBalances_succeeds .fill mine 0 total
    have shows := sound.shows quiescent side (.fillChannel 0)
    rw [opened, others] at shows
    have served := serves quiescent side mine theirs opened others (.fillChannel 0) total
    obtain ⟨tx, proposes, passes⟩ :=
      @Serves.checked parties network side mine theirs .fill _ _ _ served shows balances counts
    exact ⟨_, _, tx, proposes, passes⟩
  obtain ⟨_, _, tx, proposes, passes⟩ := checked side mine theirs opened others
  obtain ⟨_, _, other, theirsProposes, minePasses⟩ :=
    checked side.other theirs mine others (by rw [Side.other_other]; exact opened)
  have below := passes.newer
  have above := minePasses.newer
  rw [Uint256.lt_def, proposes.sequenceNumber] at below
  rw [Uint256.lt_def, theirsProposes.sequenceNumber] at above
  refine ⟨⟨proposes.channelId.symm.trans passes.channelId, ?_,
    proposes.oldBalance0.symm.trans passes.oldBalance0,
    proposes.oldBalance1.symm.trans passes.oldBalance1⟩,
    sound.roles_differ distinct opened others⟩
  rw [Uint256.eq_iff]
  omega

/-- Nodes in step serve every valid operation. -/
theorem InStep.serves (inStep : InStep parties network)
    (distinct : (parties .a).ownAddress ≠ (parties .b).ownAddress)
    (compatible : Compatible parties) (spacious : network.SpaciousAtRest) :
    network.ServesAtRest parties := by
  intro quiescent side mine theirs opened others op valid
  obtain ⟨agrees, roles⟩ := inStep.atRest distinct quiescent side mine theirs opened others
  have shows := inStep.solvent.sound.shows quiescent side op
  rw [opened, others] at shows
  exact serves_of_agrees inStep.solvent compatible shows agrees roles
    (spacious quiescent side mine (Node.openChannel_eq_some.mpr opened) theirs
      (Node.openChannel_eq_some.mpr others)) valid

/-- While nothing is lost, the chain does not fail and operations run one after
another, two distinct nodes serve every valid operation all along a run if and only
if no redraw is completed on it. -/
theorem valid_operations_served_iff {taken : List (Transition Network NetworkEvent)}
    (distinct : (parties .a).ownAddress ≠ (parties .b).ownAddress)
    (compatible : Compatible parties) (run : (machine parties).Run fresh taken network)
    (faultless : ∀ transition ∈ taken, transition.event.faultless = true)
    (starts : ∀ transition ∈ taken, transition.before.StartsAtRest transition.event)
    (spacious : ∀ transition ∈ taken, transition.after.SpaciousAtRest) :
    (∀ transition ∈ taken, transition.after.ServesAtRest parties) ↔
      ∀ transition ∈ taken, transition.before.completesReDraw transition.event = false := by
  have sound : ∀ transition ∈ taken, Sound parties transition.after := fun transition member =>
    (run.before (Sound parties) sound_fresh (fun _ _ _ sound stepped => sound.step stepped)
      transition member).step (run.step_of_mem transition member)
  refine uncompleted_iff run
    (fun transition member => NetworkEvent.lossless_of_faultless (faultless transition member))
    starts ?_ ?_
  · intro transition member serves
    exact serves.agrees distinct (sound transition member) (spacious transition member)
  · intro transition member inStep
    exact inStep.serves distinct compatible (spacious transition member)

/-- Payments both ways over a channel that is opened first: every valid operation is
served in every state at rest. -/
theorem valid_operations_served_iff_payments :
    let events := Sample.opening ++
      [.start .a (.makePayment 3), .deliver .a, .reply .a, .start .b (.makePayment 1),
        .deliver .b, .reply .b]
    ∃ network ∈ (machine Sample.parties).replay fresh events,
      (network.node .a).openChannel.map Channel.sequenceNumber = some 2 ∧
        ∀ transition ∈ (machine Sample.parties).trace fresh events,
          transition.after.ServesAtRest Sample.parties := by
  intro events
  obtain ⟨network, reached, counted⟩ : ∃ network ∈ (machine Sample.parties).replay fresh events,
      (network.node .a).openChannel.map Channel.sequenceNumber = some 2 := by
    decide +kernel
  exact ⟨network, reached, counted, (valid_operations_served_iff (by decide) Sample.compatible
    (Machine.run_of_replay reached) (by decide +kernel) (by decide +kernel)
    (by decide +kernel)).mpr (by decide +kernel)⟩

/-- Node 1 adds to the channel it opened, and then again: the peer refuses the second
time. -/
theorem fill_after_redraw_refused :
    ∃ taken network mine theirs, (machine Sample.parties).Run fresh taken network ∧
      (∀ transition ∈ taken, transition.event.faultless = true) ∧
      (∀ transition ∈ taken, transition.before.StartsAtRest transition.event) ∧
      network.Quiescent ∧ (network.node .a).entry = some (.opened mine) ∧
      (network.node .b).entry = some (.opened theirs) ∧ (UserOp.fillChannel 5).Valid mine ∧
      ¬ Serves Sample.parties network .a (.fillChannel 5) := by
  have refused : ∃ network ∈ (machine Sample.parties).replay fresh
        (Sample.opening ++ Sample.adding ++ [.reply .a]),
      network.Quiescent ∧ (network.node .a).entry = some (.opened ⟨7, 0, 15, 0, 0, true⟩) ∧
        (network.node .b).entry = some (.opened ⟨7, 1, 15, 0, 0, false⟩) ∧
        ∃ after ∈ (machine Sample.parties).replay network
          [.start .a (.fillChannel 5), .answerChain .a (.ok (.block 3)), .deliver .a, .reply .a],
        (machine Sample.parties).emitted (returns Sample.parties .a) network
          [.start .a (.fillChannel 5), .answerChain .a (.ok (.block 3)), .deliver .a, .reply .a] =
            [.error (.failure "HTTP error")] := by
    decide +kernel
  obtain ⟨network, reached, quiescent, opened, others, after, replayed, emission⟩ := refused
  refine ⟨_, network, _, _, Machine.run_of_replay reached, by decide +kernel, by decide +kernel,
    quiescent, opened, others, by unfold UserOp.Valid; decide, fun serves => ?_⟩
  obtain ⟨rest, -, -, -, -, emits⟩ := serves.returnsOk _ after (by decide) replayed
  rw [← List.cons_append, Machine.emitted_append replayed, emission] at emits
  cases emits

end Network

end Guac
