import Guac.Network.Gap
import Guac.Network.Service

/-!
Owns the way out of every state at rest. Two nodes that hold no pending transaction
always reach an open channel with equal balances: they open one, or pay the gap that
lost replies have left. A node that holds one has no way out, since nothing but the
messages that are gone takes an entry out of its pending state: none of the states
ever expires.
-/

set_option autoImplicit false

namespace Guac

open Foundation

/-- The entry waits for the end of a transaction: `Creating`, `OtherCreating`,
`ReDrawing` or `OtherReDrawing`. -/
def pending : Option Counterparty → Bool
  | some (.creating _ _) => true
  | some (.otherCreating _ _) => true
  | some (.reDrawing _ _) => true
  | some (.otherReDrawing _ _) => true
  | _ => false

/-- The next sequence number is one, and the total is a number. -/
structure Channel.Roomy (channel : Channel) : Prop where
  total : channel.total < Uint256.size
  counts : channel.sequenceNumber.toNat + 1 < Uint256.size

instance (channel : Channel) : Decidable channel.Roomy :=
  decidable_of_iff (channel.total < Uint256.size ∧
      channel.sequenceNumber.toNat + 1 < Uint256.size)
    ⟨fun ⟨total, counts⟩ => ⟨total, counts⟩, fun ⟨total, counts⟩ => ⟨total, counts⟩⟩

/-! ### The polls that open a channel -/

section Polls

variable {crypto : Crypto} {theirAddress : Address} {entry : Option Counterparty} {iAm0 : Bool}
  {amount : Uint256} {tx : NewChannelTx}

theorem fillChannel_eq
    (new : makeCounterpartyIfNone theirAddress crypto.ownAddress entry = .new iAm0) :
    (UserOp.fillChannel amount).start crypto theirAddress entry =
      .await (some (.new iAm0)) (.chain .getCurrentBlock) (.fillNewBlock iAm0 amount) := by
  simp only [UserOp.start, fillChannel, new]

theorem fillNewOnBlock_eq {theirs : Crypto} {block : Uint256}
    (room : block.toNat + 40 < Uint256.size) :
    ∃ tx, ProposalOk theirs crypto.ownAddress (!iAm0) tx ∧
      fillNewOnBlock crypto theirs.ownAddress entry iAm0 amount block =
        .await entry (.peer (.proposeChannel tx)) (.fillNewSignature iAm0 amount tx) := by
  obtain ⟨expiration, expires⟩ := @Uint256.add_succeeds _ 40 room
  refine ⟨proposedChannel crypto theirs.ownAddress iAm0 amount expiration, ?_, ?_⟩
  · cases iAm0 <;> exact ⟨rfl, rfl, rfl, rfl⟩
  · simp only [fillNewOnBlock, expires]

theorem proposeChannel_eq
    (new : makeCounterpartyIfNone theirAddress crypto.ownAddress entry = .new iAm0)
    (checked : ProposalOk crypto theirAddress iAm0 tx) :
    proposeChannel crypto theirAddress tx entry =
      ⟨some (.otherCreating tx iAm0), [.newChannel tx.unsigned],
        .resolved (.ok (.signature (crypto.ethSign (tx.fingerprint crypto))))⟩ := by
  simp only [proposeChannel, new, checkNewChannelTx_ok.mpr checked]

theorem fillNewOnSignature_eq {signature : Signature}
    (recovers : signature.recover crypto (tx.fingerprint crypto) = .ok theirAddress) :
    ∃ signature0 signature1,
      fillNewOnSignature crypto theirAddress entry iAm0 amount tx signature =
      ⟨some (.creating tx iAm0), [.newChannel tx.unsigned],
        .suspended (.chain (.depositThenNewChannel amount { tx with signature0, signature1 }))
          (.fillNewDeposited iAm0 tx.balance0 tx.balance1)⟩ := by
  simp only [fillNewOnSignature, recovers, ne_eq, not_true_eq_false, if_false]
  exact ⟨_, _, rfl⟩

end Polls

namespace Network

section Definitions

variable (parties : Side → Crypto)

/-- Both entries are open, with one channel id and equal balances. -/
structure Settled (network : Network) (channel : Side → Channel) : Prop where
  entry : ∀ side, (network.node side).entry = some (.opened (channel side))
  channelId : (channel .a).channelId = (channel .b).channelId
  balance0 : (channel .a).balance0 = (channel .b).balance0
  balance1 : (channel .a).balance1 = (channel .b).balance1

/-- The users can bring both entries to `Open` with one channel id and equal balances
by operations that nothing disturbs. -/
def Escapes (network : Network) : Prop :=
  ∃ events after channel, (∀ event ∈ events, event.faultless = true) ∧
    (machine parties).replay network events = some after ∧ after.Settled channel

end Definitions

/-- Where the two open copies differ, their numbers leave room. -/
def Roomy (network : Network) : Prop :=
  ∀ side, ∀ mine ∈ (network.node side).openChannel,
    ∀ theirs ∈ (network.node side.other).openChannel,
      (mine.balance0 = theirs.balance0 ∧ mine.balance1 = theirs.balance1) ∨ mine.Roomy

instance (network : Network) : Decidable network.Roomy :=
  decidable_of_iff ((∀ mine ∈ (network.node .a).openChannel,
        ∀ theirs ∈ (network.node .b).openChannel,
          (mine.balance0 = theirs.balance0 ∧ mine.balance1 = theirs.balance1) ∨ mine.Roomy) ∧
      ∀ mine ∈ (network.node .b).openChannel, ∀ theirs ∈ (network.node .a).openChannel,
        (mine.balance0 = theirs.balance0 ∧ mine.balance1 = theirs.balance1) ∨ mine.Roomy)
    (@Side.forall_iff (fun side => ∀ mine ∈ (network.node side).openChannel,
      ∀ theirs ∈ (network.node side.other).openChannel,
        (mine.balance0 = theirs.balance0 ∧ mine.balance1 = theirs.balance1) ∨ mine.Roomy)
      .a).symm

variable {parties : Side → Crypto} {network after : Network} {side : Side} {op : UserOp}
  {event : NetworkEvent} {events : List NetworkEvent} {mine theirs : Channel}

/-! ### No way out of a pending entry -/

theorem Solvent.stuck (solvent : Solvent parties network) (quiescent : network.Quiescent)
    (delivered : ∀ side, network.orphans side = [])
    (waits : pending (network.node side).entry = true) : network.handover.Stuck side := by
  have idle := solvent.sound.idle_at_rest quiescent
  refine ⟨fun value holds => ?_, fun second deal leads => ?_, fun second => ?_, fun second => ?_,
    fun second => ?_⟩
  · change (network.node side).phase = .stable value at holds
    rw [Node.phase] at holds
    cases entry : (network.node side).entry with
    | none =>
        rw [entry] at waits
        cases waits
    | some counterparty =>
        rw [entry] at holds waits
        cases counterparty with
        | new | opened => cases waits
        | creating | otherCreating | reDrawing | otherReDrawing => cases holds
  · change (network.node second).phase = .leading deal false at leads
    rw [Node.phase, quiescent second] at leads
    unfold Guac.phase at leads
    split at leads <;> cases leads
  · change (network.wire second).consent _ = none
    rw [idle second]
    rfl
  · change network.notices second = 0
    rw [notices, idle second, delivered second, quiescent second.other]
    rfl
  · change ¬ (network.wire second).acknowledges _
    rw [idle second]
    exact id

/-- Whatever happens to a stuck network, the entry of this node never opens. -/
theorem Solvent.never_opens (solvent : Solvent parties network)
    (stuck : network.handover.Stuck side)
    (replay : (machine parties).replay network events = some after) {channel : Channel} :
    (after.node side).entry ≠ some (.opened channel) := by
  have kept : Solvent parties after ∧ after.handover.Stuck side :=
    (Machine.run_of_replay replay).invariant
      (fun network => Solvent parties network ∧ network.handover.Stuck side) ⟨solvent, stuck⟩
      fun _ _ _ ⟨solvent, stuck⟩ stepped =>
        ⟨solvent.step stepped, stuck.step (solvent.simulates stepped)⟩
  intro opened
  exact kept.2.unstable channel.total (Node.phase_of_opened opened)

/-- Two nodes at rest with nothing on its way, one of them in a pending state, have no
way out. -/
theorem Solvent.trapped (solvent : Solvent parties network) (quiescent : network.Quiescent)
    (delivered : ∀ side, network.orphans side = [])
    (waits : pending (network.node side).entry = true) : ¬ network.Escapes parties := by
  rintro ⟨events, after, channel, -, replay, settled⟩
  exact solvent.never_opens (solvent.stuck quiescent delivered waits) replay (settled.entry side)

/-! ### The way out of a state with none -/

theorem Escapes.of_replay (faultless : ∀ event ∈ events, event.faultless = true)
    (replay : (machine parties).replay network events = some after)
    (escapes : after.Escapes parties) : network.Escapes parties := by
  obtain ⟨rest, final, channel, others, replayed, settled⟩ := escapes
  refine ⟨events ++ rest, final, channel, List.forall_mem_append.mpr ⟨faultless, others⟩, ?_,
    settled⟩
  rw [Machine.replay_append, replay]
  exact replayed

theorem Escapes.of_step (faultless : event.faultless = true)
    (stepped : network.step parties event = some after) (escapes : after.Escapes parties) :
    network.Escapes parties :=
  escapes.of_replay (List.forall_mem_singleton.mpr faultless)
    (Machine.replay_cons.mpr ⟨after, stepped, rfl⟩)

/-- Two open copies of one channel with equal balances are settled. -/
theorem Shows.escapes {activity : Activity}
    (shows : network.Shows side op (some (.opened mine)) (some (.opened theirs)) activity)
    (channelId : mine.channelId = theirs.channelId) (balance0 : mine.balance0 = theirs.balance0)
    (balance1 : mine.balance1 = theirs.balance1) : network.Escapes parties := by
  cases side with
  | a =>
      refine ⟨[], network, fun side => if side = .a then mine else theirs, List.forall_mem_nil _,
        rfl, ?_, channelId, balance0, balance1⟩
      exact (Side.a.forall_iff).mpr ⟨shows.mine, shows.theirs⟩
  | b =>
      refine ⟨[], network, fun side => if side = .a then theirs else mine, List.forall_mem_nil _,
        rfl, ?_, channelId.symm, balance0.symm, balance1.symm⟩
      exact (Side.b.forall_iff).mpr ⟨shows.mine, shows.theirs⟩

theorem Shows.signed_opening {tx : NewChannelTx} {iAm0 theyAre0 : Bool} {activity : Activity}
    (shows : network.Shows side op (some (.creating tx iAm0)) (some (.otherCreating tx theyAre0))
      activity) (sound : Sound parties network) :
    network.bothSigned (.newChannel tx.unsigned) := by
  exact bothSigned_iff.mpr ((side.forall_iff).mpr
    ⟨sound.creating_signed shows.mine, sound.otherCreating_signed shows.theirs⟩)

theorem Shows.escapes_submitted {tx : NewChannelTx} {iAm0 : Bool} {amount : Uint256}
    {signature0 signature1 : Option Signature}
    (shows : network.Shows side op (some (.creating tx iAm0))
      (some (.otherCreating tx !iAm0))
      (.asking (.depositThenNewChannel amount { tx with signature0, signature1 })
        (.fillNewDeposited iAm0 tx.balance0 tx.balance1)))
    (checked : ProposalOk (parties side.other) (parties side).ownAddress (!iAm0) tx)
    (sound : Sound parties network) (unopened : network.chain.opened = []) :
    network.Escapes parties := by
  have mined : network.step parties (.mineNewChannel tx.unsigned 0) =
      some (network.mineNewChannel tx.unsigned 0) := by
    refine if_pos ⟨shows.signed_opening sound, ?_, ?_⟩
    · rw [unopened]
      exact List.not_mem_nil
    · rw [unopened]
      exact List.not_mem_nil
  have submitted : (network.mineNewChannel tx.unsigned 0).Shows side op _ _ _ :=
    ⟨shows.mine, shows.theirs, shows.running, shows.serves, shows.wire, shows.otherWire⟩
  have opens : (network.mineNewChannel tx.unsigned 0).chain.hasOpened tx.address0 tx.address1 0 :=
    ⟨_, List.mem_append_right _ (List.mem_singleton.mpr rfl), rfl, rfl, rfl⟩
  refine .of_step rfl mined ?_
  obtain ⟨confirmed, -, notified⟩ :=
    submitted.confirm parties (.ok (.channelId 0)) (decide_eq_true opens) rfl
  refine .of_step rfl confirmed ?_
  refine .of_step rfl (notified.deliver parties rfl) ?_
  have serving := notified.looking (notifyChannelOpened (parties side.other)
    (parties side).ownAddress (some (.otherCreating tx !iAm0))) rfl rfl
  rw [← checked.address0, ← checked.address1] at serving
  refine .of_step rfl
    (serving.lookUp parties (.ok (.maybeChannelId (some 0))) (decide_eq_true opens) rfl) ?_
  have acknowledged := serving.served (notifyChannelOpenedOnChecked
    (some (.otherCreating tx !iAm0)) (!iAm0) tx (some 0)) rfl rfl rfl
  obtain ⟨replied, -, opened⟩ := acknowledged.reply parties rfl
  refine .of_step rfl replied ?_
  exact opened.escapes rfl rfl rfl

theorem Shows.escapes_consented {tx : NewChannelTx} {iAm0 : Bool} {amount : Uint256}
    (shows : network.Shows side op (some (.new iAm0)) (some (.otherCreating tx !iAm0))
      (.answered (.proposeChannel tx) (.fillNewSignature iAm0 amount tx)
        (.ok (.signature
          ((parties side.other).ethSign (tx.fingerprint (parties side.other)))))))
    (compatible : Compatible parties)
    (checked : ProposalOk (parties side.other) (parties side).ownAddress (!iAm0) tx)
    (sound : Sound parties network) (unopened : network.chain.opened = []) :
    network.Escapes parties := by
  have recovers := compatible.recovers_other side (tx.fingerprint (parties side))
  rw [compatible.fingerprint_newChannel] at shows
  obtain ⟨signature0, signature1, signs⟩ := @fillNewOnSignature_eq (parties side)
    (parties side.other).ownAddress (some (.new iAm0)) iAm0 amount tx _ recovers
  obtain ⟨replied, -, submitted⟩ := shows.reply parties (congrArg some signs)
  exact .of_step rfl replied (submitted.escapes_submitted checked (sound.step replied) unopened)

/-- Two nodes that have signed nothing open a channel. -/
theorem Sound.escapes_new (sound : Sound parties network) (compatible : Compatible parties)
    (distinct : (parties .a).ownAddress ≠ (parties .b).ownAddress)
    (quiescent : network.Quiescent)
    (new : ∀ side, makeCounterpartyIfNone (parties side.other).ownAddress
      (parties side).ownAddress (network.node side).entry = .new (role parties side))
    (unopened : network.chain.opened = []) (side : Side) : network.Escapes parties := by
  obtain ⟨started, -, asking⟩ := (sound.shows quiescent side (.fillChannel 0)).start parties
    (fillChannel_eq (new side))
  refine .of_step rfl started ?_
  obtain ⟨tx, checked, proposes⟩ := @fillNewOnBlock_eq (parties side)
    (some (.new (role parties side))) (role parties side) 0 (parties side.other) 0 (by decide)
  obtain ⟨confirmed, -, sent⟩ := asking.confirm parties (.ok (.block 0)) rfl
    (congrArg some proposes)
  refine .of_step rfl confirmed ?_
  have theirs := new side.other
  rw [Side.other_other, ← Bool.not_not (role parties side.other), ← role_other distinct side]
    at theirs
  have delivered := sent.deliver parties (proposeChannel_eq theirs checked)
  refine .of_step rfl delivered ?_
  exact Shows.escapes_consented (sent.served _ rfl rfl rfl) compatible checked
    (((sound.step started).step confirmed).step delivered) unopened

/-- The copy that is not behind pays what it holds above the other one. -/
theorem PaymentInOrder.of_gap (covers : mine.Covers mine.iAm0 theirs)
    (roles : mine.iAm0 = !theirs.iAm0) (sameTotal : mine.total = theirs.total)
    (roomy : mine.Roomy) (newer : theirs.sequenceNumber.toNat ≤ mine.sequenceNumber.toNat) :
    ∃ amount paid, PaymentInOrder mine theirs amount paid := by
  have recorded : theirs.slot mine.iAm0 = theirs.theirBalance := by
    rw [← Channel.slot_other, roles]
  have more := covers.more
  rw [recorded, Channel.slot_role] at more
  obtain ⟨amount, gap⟩ := @Uint256.sub_succeeds mine.myBalance theirs.theirBalance more
  have gap := Uint256.sub_eq_ok.mp gap
  have totals := mine.total_eq
  have otherTotals := theirs.total_eq
  have total := roomy.total
  obtain ⟨paid, made⟩ := @Channel.makePayment_succeeds mine amount none (by omega) roomy.counts
    (by omega)
  have pays := (Channel.makePayment_ok made).1
  have states := Channel.toUpdate_myBalance (pays.iAm0.trans roles)
  have theirsGain := pays.theirs
  have counted := pays.sequenceNumber
  -- the payee finds what it already holds, so it accrues nothing
  have given : paid.theirBalance = theirs.myBalance := by
    rw [Uint256.eq_iff]
    omega
  refine ⟨amount, paid, made, ⟨?_, ?_, ?_, ?_, ?_⟩, roles⟩
  · change _ < paid.sequenceNumber.toNat
    rw [counted]
    exact Nat.lt_succ_of_le newer
  · exact pays.total.trans sameTotal
  · exact sameTotal ▸ total
  · exact Nat.le_of_eq (congrArg Uint256.toNat (states.trans given).symm)
  · rw [states, given, Nat.sub_self]
    exact theirs.accrual.isLt

/-- The node that is not behind closes the gap with one payment. -/
theorem Solvent.escapes_gap (solvent : Solvent parties network) (compatible : Compatible parties)
    (quiescent : network.Quiescent) (opened : (network.node side).entry = some (.opened mine))
    (others : (network.node side.other).entry = some (.opened theirs))
    (covers : mine.Covers mine.iAm0 theirs) (roles : mine.iAm0 = !theirs.iAm0)
    (sameId : mine.channelId = theirs.channelId) (sameTotal : mine.total = theirs.total)
    (roomy : mine.Roomy) (newer : theirs.sequenceNumber.toNat ≤ mine.sequenceNumber.toNat) :
    network.Escapes parties := by
  obtain ⟨amount, paid, inOrder⟩ :=
    PaymentInOrder.of_gap covers roles sameTotal roomy newer
  have shows := solvent.sound.shows quiescent side (.makePayment amount)
  rw [opened, others] at shows
  obtain ⟨started, -, sent⟩ := shows.start parties (makePayment_eq inOrder.made)
  refine .of_step rfl started ?_
  obtain ⟨events, final, undisturbed, replay, -, done⟩ :=
    (inOrder.countdown compatible).finishes ⟨solvent.step started, .sent sent⟩
  refine .of_replay (fun event member => ?_) replay ?_
  · exact (Bool.and_eq_true_iff.mp (undisturbed event member)).1
  have keptId := (Channel.makePayment_ok inOrder.made).1.channelId
  cases done with
  | done receives shows =>
      exact shows.escapes ((keptId.trans sameId).trans receives.channelId.symm)
        receives.balance0.symm receives.balance1.symm

theorem Sound.new_of_closed (sound : Sound parties network)
    (calm : pending (network.node side).entry = false)
    (closed : (network.node side).openChannel = none) :
    makeCounterpartyIfNone (parties side.other).ownAddress (parties side).ownAddress
        (network.node side).entry = .new (role parties side) ∧
      (network.node side).signed = [] := by
  have backed := (sound.coherent side).backed
  rw [Node.openChannel] at closed
  cases entry : (network.node side).entry with
  | none =>
      rw [entry] at backed
      exact ⟨rfl, backed⟩
  | some counterparty =>
      rw [entry] at backed calm closed
      cases counterparty with
      | new iAm0 => exact ⟨congrArg Counterparty.new backed.1, backed.2⟩
      | creating | otherCreating | reDrawing | otherReDrawing => cases calm
      | opened => cases closed

/-- Where one entry is open and the other one is not pending, both are open with one
channel id and one total. -/
theorem Solvent.both_open (solvent : Solvent parties network)
    (calm : pending (network.node side.other).entry = false)
    (opened : (network.node side).entry = some (.opened mine)) :
    ∃ theirs, (network.node side.other).entry = some (.opened theirs) ∧
      mine.channelId = theirs.channelId ∧ mine.total = theirs.total := by
  have chained := solvent.chained
  obtain ⟨tx, onChain⟩ := chained.channels side mine (Node.channel_of_opened opened)
  cases others : (network.node side.other).openChannel with
  | none =>
      -- both nodes signed the opening on the chain
      have unsigned := (solvent.sound.new_of_closed calm others).2
      have signed := bothSigned_iff.mp (chained.signed _ onChain) side.other
      rw [unsigned] at signed
      cases signed
  | some theirs =>
      have others := Node.openChannel_eq_some.mp others
      obtain ⟨other, alsoOnChain⟩ :=
        chained.channels side.other theirs (Node.channel_of_opened others)
      exact ⟨theirs, others, (Prod.mk.inj (chained.unique onChain alsoOnChain)).2,
        (solvent.ledger_of_open opened).symm.trans (solvent.ledger_of_open others)⟩

/-- Two nodes at rest, neither of them pending, have a way out. -/
theorem Covering.escapes (covering : Covering parties network) (compatible : Compatible parties)
    (distinct : (parties .a).ownAddress ≠ (parties .b).ownAddress)
    (quiescent : network.Quiescent) (roomy : network.Roomy)
    (calm : ∀ side, pending (network.node side).entry = false) : network.Escapes parties := by
  have solvent := covering.solvent
  by_cases unopened : ∀ side, (network.node side).openChannel = none
  · have new := fun side => solvent.sound.new_of_closed (calm side) (unopened side)
    refine solvent.sound.escapes_new compatible distinct quiescent (fun side => (new side).1) ?_
      .a
    refine List.eq_nil_iff_forall_not_mem.mpr fun opening onChain => ?_
    have signed := (solvent.chained.signed opening onChain).1
    rw [(new .a).2] at signed
    cases signed
  · obtain ⟨side, opens⟩ := not_forall.mp unopened
    obtain ⟨mine, opened⟩ := Option.ne_none_iff_exists'.mp opens
    have opened := Node.openChannel_eq_some.mp opened
    obtain ⟨theirs, others, sameId, sameTotal⟩ := solvent.both_open (calm side.other) opened
    by_cases same : mine.balance0 = theirs.balance0 ∧ mine.balance1 = theirs.balance1
    · have shows := solvent.sound.shows quiescent side .checkAccrual
      rw [opened, others] at shows
      exact shows.escapes sameId same.1 same.2
    have roomyMine := (roomy side mine (Node.openChannel_eq_some.mpr opened) theirs
      (Node.openChannel_eq_some.mpr others)).resolve_left same
    have roles := solvent.sound.roles_differ distinct opened others
    have covers := covering.atRest quiescent opened others
    rw [← solvent.sound.role_of_open opened] at covers
    rcases Nat.le_total theirs.sequenceNumber.toNat mine.sequenceNumber.toNat with newer | older
    · exact solvent.escapes_gap compatible quiescent opened others covers roles sameId sameTotal
        roomyMine newer
    · have otherRoles : theirs.iAm0 = !mine.iAm0 := by rw [roles, Bool.not_not]
      have otherCovers := covers.flip
      rw [← otherRoles] at otherCovers
      rw [← side.other_other] at opened
      have roomyTheirs := (roomy side.other theirs (Node.openChannel_eq_some.mpr others) mine
        (Node.openChannel_eq_some.mpr opened)).resolve_left
          fun flipped => same ⟨flipped.1.symm, flipped.2.symm⟩
      exact solvent.escapes_gap compatible quiescent others opened otherCovers otherRoles
        sameId.symm sameTotal.symm roomyTheirs older

/-- From every state at rest that two distinct nodes reach, whatever was lost on the
way, the users can bring both entries to `Open` with one channel id and equal balances
if and only if neither entry is in a pending state. Where the copies differ, there is
room for the payment that closes the gap. -/
theorem no_trap_iff {taken : List (Transition Network NetworkEvent)}
    (distinct : (parties .a).ownAddress ≠ (parties .b).ownAddress)
    (compatible : Compatible parties) (run : (machine parties).Run fresh taken network)
    (quiescent : network.Quiescent) (delivered : ∀ side, network.orphans side = [])
    (roomy : network.Roomy) :
    network.Escapes parties ↔ ∀ side, pending (network.node side).entry = false := by
  have covering := covering_of_run distinct run
  constructor
  · intro escapes side
    rw [Bool.eq_false_iff]
    exact fun waits => covering.solvent.trapped quiescent delivered waits escapes
  · exact covering.escapes compatible distinct quiescent roomy

/-- Node 1 pays 5 on the channel it opened and never hears that node 2 took it: the
copies differ, and there is a way out. -/
theorem no_trap_iff_lost_reply :
    let events := Sample.opening ++ [.start .a (.makePayment 5), .deliver .a, .giveUp .a false]
    ∃ network ∈ (machine Sample.parties).replay fresh events,
      (network.node .a).openChannel.map Channel.balance0 = some 10 ∧
        (network.node .b).openChannel.map Channel.balance0 = some 5 ∧
        network.Escapes Sample.parties := by
  intro events
  obtain ⟨network, reached, quiescent, delivered, roomy, calm, mine, theirs⟩ :
      ∃ network ∈ (machine Sample.parties).replay fresh events, network.Quiescent ∧
        ((network.orphans .a).isEmpty = true ∧ (network.orphans .b).isEmpty = true) ∧
        network.Roomy ∧
        (pending (network.node .a).entry = false ∧ pending (network.node .b).entry = false) ∧
        (network.node .a).openChannel.map Channel.balance0 = some 10 ∧
        (network.node .b).openChannel.map Channel.balance0 = some 5 := by
    decide +kernel
  refine ⟨network, reached, mine, theirs, ?_⟩
  refine (no_trap_iff (by decide) Sample.compatible (Machine.run_of_replay reached) quiescent
    ((Side.a.forall_iff).mpr ?_) roomy).mpr ((Side.a.forall_iff).mpr calm)
  exact delivered.imp List.isEmpty_iff.mp List.isEmpty_iff.mp

/-- Node 1 proposes a channel, node 2 signs it, and the reply is lost: node 2 waits for
an opening node 1 knows nothing of, and both entries are never open again. -/
theorem lost_consent_traps :
    ∃ taken network, (machine Sample.parties).Run fresh taken network ∧ network.Quiescent ∧
      (∀ side, network.orphans side = []) ∧ network.Roomy ∧
      ¬ network.Escapes Sample.parties := by
  obtain ⟨network, reached, quiescent, delivered, roomy, waits⟩ :
      ∃ network ∈ (machine Sample.parties).replay fresh
          [.start .a (.fillChannel 10), .answerChain .a (.ok (.block 1)), .deliver .a,
            .giveUp .a false],
        network.Quiescent ∧
          ((network.orphans .a).isEmpty = true ∧ (network.orphans .b).isEmpty = true) ∧
          network.Roomy ∧ pending (network.node .b).entry = true := by
    decide +kernel
  have run := Machine.run_of_replay reached
  have delivered : ∀ side, network.orphans side = [] :=
    (Side.a.forall_iff).mpr (delivered.imp List.isEmpty_iff.mp List.isEmpty_iff.mp)
  exact ⟨_, network, run, quiescent, delivered, roomy,
    (solvent_of_run run).trapped quiescent delivered waits⟩

end Network

end Guac
