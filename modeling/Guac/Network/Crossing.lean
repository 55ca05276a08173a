import Guac.Foundation.History
import Guac.Network.Sound

/-!
Owns the deadlock of two crossing requests: each node's operation holds the
`Guard` of its entry and waits for a handler that waits for the other node's
`Guard`. It is read off the events alone which of them make an operation send a
request. A run is free of the deadlock exactly when no such event happens at one
node between one at the other and the event that takes that request up; nothing
in the source sees to that, and without a timeout the deadlock is final.
-/

set_option autoImplicit false

namespace Guac

open Foundation

/-! ### What makes an operation send a request -/

/-- The channel holds the amount, and the sums of the payment stay below `2^256`. -/
def Channel.CanPay (channel : Channel) (amount : Uint256) (currentSeq : Option Uint256) : Prop :=
  amount.toNat ≤ channel.myBalance.toNat ∧
    (currentSeq.getD channel.sequenceNumber).toNat + 1 < Uint256.size ∧
    channel.theirBalance.toNat + amount.toNat < Uint256.size

instance (channel : Channel) (amount : Uint256) (currentSeq : Option Uint256) :
    Decidable (channel.CanPay amount currentSeq) :=
  inferInstanceAs (Decidable (_ ∧ _ ∧ _))

/-- A call of the user sends at once only if it is a payment on an open channel. -/
def UserOp.sends (entry : Option Counterparty) : UserOp → Bool
  | .makePayment amount =>
      match entry with
      | some (.opened channel) => decide (channel.CanPay amount none)
      | _ => false
  | _ => false

/-- The answers with which an operation sends its next request: the current block, the
confirmation of its submission, and the sequence number a payment is retried above. -/
def Closure.sends : Closure → Value → Bool
  | .fillNewBlock _ _, .block block => decide (block.toNat + 40 < Uint256.size)
  | .fillNewDeposited _ _ _, .channelId _ => true
  | .reDrawBlock _ _ channel _ _, .block block =>
      decide (channel.sequenceNumber.toNat + 1 < Uint256.size ∧
        block.toNat + 40 < Uint256.size)
  | .reDrawSubmitted _ _ _, .unit => true
  | .paymentReply amount channel, .maybeSeq (some currentSeq) =>
      decide (channel.CanPay amount (some currentSeq))
  | _, _ => false

/-- Whether an input makes an operation of the user send a request. -/
def Node.sends (node : Node) : Input → Bool
  | .start op => op.sends node.entry
  | .resume (.ok value) =>
      match node.running with
      | some ⟨.user _, _, closure⟩ => closure.sends value
      | _ => false
  | _ => false

section Polls

variable {crypto : Crypto} {theirAddress : Address} {entry : Option Counterparty} {poll : Poll}

theorem canPay_iff {channel : Channel} {amount : Uint256} {currentSeq : Option Uint256} :
    channel.CanPay amount currentSeq ↔
      ∃ paid, channel.makePayment amount currentSeq = .ok (paid, paid.toUpdate) := by
  constructor
  · rintro ⟨enough, counts, fits⟩
    exact Channel.makePayment_succeeds enough counts fits
  · rintro ⟨paid, made⟩
    obtain ⟨pays, -⟩ := Channel.makePayment_ok made
    refine ⟨?_, ?_, ?_⟩
    · exact Nat.le.intro ((Nat.add_comm ..).trans pays.mine)
    · exact pays.sequenceNumber ▸ paid.sequenceNumber.toNat_lt
    · exact pays.theirs ▸ paid.theirBalance.toNat_lt

/-- Whether a channel can pay is whether `make_payment` succeeds. -/
theorem decide_canPay {channel : Channel} {amount : Uint256} {currentSeq : Option Uint256} :
    decide (channel.CanPay amount currentSeq) =
      (channel.makePayment amount currentSeq).toBool := by
  cases made : channel.makePayment amount currentSeq with
  | ok result =>
      obtain ⟨paid, updateTx⟩ := result
      obtain ⟨-, rfl⟩ := Channel.makePayment_ok made
      exact decide_eq_true (canPay_iff.mpr ⟨paid, made⟩)
  | error fault =>
      refine decide_eq_false fun can => ?_
      obtain ⟨paid, succeeds⟩ := canPay_iff.mp can
      cases made.symm.trans succeeds

theorem sends_of_start (op : UserOp) :
    (op.start crypto theirAddress entry).next.wire.request.isSome = op.sends entry := by
  have reDraws (kind : ReDrawKind) (amount : Uint256) (channel : Channel) :
      (reDrawStart kind amount channel).next.wire.request = none := by
    unfold reDrawStart
    split <;> rfl
  cases op with
  | fillChannel amount =>
      simp only [UserOp.start, fillChannel, UserOp.sends]
      split
      next => rfl
      next => rw [reDraws]; rfl
      next => rfl
  | withdraw amount =>
      cases entry with
      | none => rfl
      | some counterparty =>
          cases counterparty with
          | opened channel => exact congrArg Option.isSome (reDraws .withdraw amount channel)
          | new | creating | otherCreating | reDrawing | otherReDrawing => rfl
  | makePayment amount =>
      cases entry with
      | none => rfl
      | some counterparty =>
          cases counterparty with
          | opened channel =>
              simp only [UserOp.start, makePayment, withCounterparty, checkForCounterparty, okOr,
                UserOp.sends]
              rw [decide_canPay]
              cases channel.makePayment amount none <;> rfl
          | new | creating | otherCreating | reDrawing | otherReDrawing => rfl
  | checkAccrual =>
      cases entry with
      | none => rfl
      | some counterparty => cases counterparty <;> rfl

theorem sends_of_fillNewOnBlock {iAm0 : Bool} {amount block : Uint256} :
    (fillNewOnBlock crypto theirAddress entry iAm0 amount block).next.wire.request.isSome =
      decide (block.toNat + 40 < Uint256.size) := by
  unfold fillNewOnBlock
  cases added : block.add 40 with
  | ok expiration =>
      have sum : expiration.toNat = block.toNat + 40 := Uint256.add_eq_ok.mp added
      rw [decide_eq_true (sum ▸ expiration.toNat_lt)]
      rfl
  | error fault =>
      have overflow : Uint256.size ≤ block.toNat + 40 := (Uint256.add_error added).2
      rw [decide_eq_false (Nat.not_lt.mpr overflow)]
      rfl

theorem sends_of_reDrawOnBlock {kind : ReDrawKind} {channel : Channel}
    {amount newBalance0 newBalance1 block : Uint256} :
    (reDrawOnBlock entry kind amount channel newBalance0 newBalance1
        block).next.wire.request.isSome =
      decide (channel.sequenceNumber.toNat + 1 < Uint256.size ∧
        block.toNat + 40 < Uint256.size) := by
  unfold reDrawOnBlock
  cases counted : channel.sequenceNumber.add 1 with
  | error fault =>
      have overflow : Uint256.size ≤ channel.sequenceNumber.toNat + 1 :=
        (Uint256.add_error counted).2
      rw [decide_eq_false fun fits => Nat.not_le.mpr fits.1 overflow]
      rfl
  | ok sequenceNumber =>
      have next : sequenceNumber.toNat = channel.sequenceNumber.toNat + 1 :=
        Uint256.add_eq_ok.mp counted
      cases added : block.add 40 with
      | error fault =>
          have overflow : Uint256.size ≤ block.toNat + 40 := (Uint256.add_error added).2
          rw [decide_eq_false fun fits => Nat.not_le.mpr fits.2 overflow]
          rfl
      | ok expiration =>
          have sum : expiration.toNat = block.toNat + 40 := Uint256.add_eq_ok.mp added
          rw [decide_eq_true ⟨next ▸ sequenceNumber.toNat_lt, sum ▸ expiration.toNat_lt⟩]
          rfl

theorem sends_of_makePaymentOnReply {amount : Uint256} {channel : Channel}
    {reply : Option Uint256} :
    (makePaymentOnReply crypto entry amount channel reply).next.wire.request.isSome =
      (Closure.paymentReply amount channel).sends (.maybeSeq reply) := by
  cases reply with
  | none => rfl
  | some currentSeq =>
      simp only [makePaymentOnReply, Closure.sends]
      rw [decide_canPay]
      cases channel.makePayment amount (some currentSeq) <;> rfl

theorem sends_of_apply {closure : Closure} {value : Value}
    (applied : closure.apply crypto theirAddress entry value = some poll) :
    poll.next.wire.request.isSome = closure.sends value := by
  unfold Closure.apply at applied
  split at applied <;> cases applied
  · exact sends_of_fillNewOnBlock
  · unfold fillNewOnSignature
    simp only
    split
    next => rfl
    next => split <;> rfl
  · rfl
  · rfl
  · exact sends_of_reDrawOnBlock
  · unfold reDrawOnSignature
    simp only
    split
    next => rfl
    next =>
      split
      next => rfl
      next => rfl
  · rfl
  · rfl
  · exact sends_of_makePaymentOnReply
  · unfold makePaymentOnRetryReply
    split <;> rfl
  · unfold notifyChannelOpenedOnChecked
    split <;> rfl
  · rfl

/-- An operation of the user sends a request exactly at the inputs that say so. -/
theorem sends_of_poll {node : Node} {input : Input} {op : UserOp}
    (polled : node.poll crypto theirAddress input = some (.user op, poll)) :
    poll.next.wire.request.isSome = node.sends input := by
  cases input with
  | start started =>
      obtain ⟨-, -, rfl⟩ := poll_start polled
      exact sends_of_start started
  | request request =>
      obtain ⟨-, wrong, -⟩ := poll_request polled
      cases wrong
  | resume answer =>
      obtain ⟨⟨_, call, closure⟩, holds, rfl, resumed⟩ := poll_resume polled
      cases answer with
      | error fault =>
          obtain rfl := Option.some.inj resumed
          rfl
      | ok value =>
          simp only [Node.sends, holds]
          exact sends_of_apply resumed

end Polls

namespace Network

/-- Nothing is lost and nobody gives up. -/
def lossless : NetworkEvent → Bool
  | .giveUp _ _ => false
  | .deliverOrphan _ _ => false
  | _ => true

/-- Both operations hold their `Guard` and wait for a request that no handler
has taken up. -/
def Crossed (network : Network) : Prop :=
  ∀ side, ∃ op request closure,
    (network.node side).running = some ⟨.user op, .peer request, closure⟩ ∧
      (network.wire side).request = some request

/-! ### The condition on the events -/

/-- The event makes an operation of this side send a request. -/
def sends (network : Network) (side : Side) (event : NetworkEvent) : Bool :=
  match network.inputTo side event with
  | some input => (network.node side).sends input
  | none => false

/-- The peer takes the request of this side up, or the caller gives up. -/
def takesUp (side : Side) : NetworkEvent → Bool
  | .deliver caller => decide (caller = side)
  | .giveUp caller _ => decide (caller = side)
  | _ => false

/-- This side has sent a request, and since then nobody took it up. -/
def OnItsWay (side : Side) : List (Transition Network NetworkEvent) → Prop :=
  Since (fun transition => transition.before.sends side transition.event = true)
    fun transition => takesUp side transition.event = true

instance (side : Side) : DecidablePred (OnItsWay side) :=
  inferInstanceAs (DecidablePred (Since _ _))

/-- Nobody sends a request while one of the peer's is on its way. -/
def SendsApart : List (Transition Network NetworkEvent) → Prop :=
  EachAfter fun earlier transition => ∀ side,
    transition.before.sends side transition.event = true → ¬ OnItsWay side.other earlier

instance : DecidablePred SendsApart :=
  inferInstanceAs (DecidablePred (EachAfter _))

variable {parties : Side → Crypto} {before after network : Network} {event : NetworkEvent}
  {side : Side}

theorem sends_alone (sent : before.sends side event = true) :
    before.sends side.other event = false ∧ takesUp side.other event = false := by
  cases event with
  | start mover | answerChain mover =>
      rcases side.eq_or_eq_other mover with rfl | rfl
      · simp [sends, inputTo, takesUp, Side.ne_other]
      · simp [sends, inputTo, Side.other_ne] at sent
  | reply mover =>
      rcases side.eq_or_eq_other mover with rfl | rfl
      · cases wire : before.wire mover <;> simp [sends, inputTo, takesUp, wire, Side.ne_other]
      · cases wire : before.wire side.other <;> simp [sends, inputTo, wire, Side.other_ne] at sent
  | giveUp mover arrives =>
      rcases side.eq_or_eq_other mover with rfl | rfl
      · simp [sends, inputTo, takesUp, Side.ne_other]
      · simp [sends, inputTo, Side.other_ne] at sent
  | deliver | deliverOrphan | mineNewChannel | mineReDraw =>
      simp [sends, inputTo] at sent

theorem served_request {wire : Wire} {next : Next} :
    (wire.served next).request = wire.request := by
  cases wire with
  | serving => cases next <;> rfl
  | idle | sent | answered => rfl

theorem own_request (event : NetworkEvent) {mover : Side} {input : Input} {op : UserOp}
    {poll : Poll}
    (polled : before.poll parties mover input = some (.user op, poll))
    (handed : before.inputTo mover event = some input)
    (others : before.inputTo mover.other event = none)
    (free : (before.wire mover).request = none ∨ takesUp mover event = true)
    (untaken : takesUp mover.other event = false) (side : Side) :
    ((before.own mover (.user op) poll).wire side).request.isSome =
      (before.sends side event || (before.wire side).request.isSome && !takesUp side event) := by
  revert side
  refine (mover.forall_iff).mpr ⟨?_, ?_⟩
  · rw [own_wire, sends_of_poll polled]
    rcases free with none | taken
    · simp [sends, handed, none]
    · simp [sends, handed, taken]
  · simp [sends, others, untaken]

/-- A request is on the wire after a step that sends it, and stays there until it is taken
up. -/
theorem Sound.request_of_step (sound : Sound parties before)
    (stepped : before.step parties event = some after) (side : Side) :
    (after.wire side).request.isSome =
      (before.sends side event || (before.wire side).request.isSome && !takesUp side event) := by
  cases change_of_step stepped with
  | @started mover op operation poll polled =>
      obtain ⟨idle, rfl, -⟩ := poll_start polled
      have wire := @Sound.idle _ _ mover sound (by simp [idle])
      exact own_request (.start mover op) polled (if_pos rfl) (if_neg mover.ne_other)
        (.inl (by rw [wire]; rfl)) rfl side
  | @chainAnswered mover answer op call closure operation poll holds answers polled =>
      obtain rfl := operation_of_held polled holds
      have wire := @Sound.idle _ _ mover sound (by simp [holds])
      exact own_request (.answerChain mover answer) polled (if_pos rfl) (if_neg mover.ne_other)
        (.inl (by rw [wire]; rfl)) rfl side
  | @replied mover result operation poll answered polled =>
      obtain ⟨op, request, closure, holds⟩ := (sound.wires _).waits (by rw [answered]; simp)
      obtain rfl := operation_of_held polled holds
      refine own_request (.reply mover) polled ?_ ?_ (.inl (by rw [answered]; rfl)) rfl side
      · simp [inputTo, answered]
      · simp [inputTo, answered, mover.ne_other]
  | @gaveUp mover arrives operation poll waiting polled =>
      obtain ⟨op, request, closure, holds⟩ := (sound.wires _).waits waiting
      obtain rfl := operation_of_held polled holds
      exact own_request (.giveUp mover arrives) polled (if_pos rfl) (if_neg mover.ne_other)
        (.inr (decide_eq_true rfl)) (decide_eq_false mover.ne_other) side
  | @lookedUp mover answer request call closure operation poll holds answers polled =>
      revert side
      refine (mover.forall_iff).mpr ⟨?_, ?_⟩
      · rw [serve_wire]
        cases answer <;> simp [sends, inputTo, Node.sends, takesUp, holds]
      · simp [sends, inputTo, takesUp, served_request, mover.ne_other]
  | @delivered caller request operation poll sent polled =>
      revert side
      refine (caller.other.forall_iff).mpr ⟨?_, ?_⟩
      · rw [serve_wire]
        simp [sends, inputTo, takesUp, caller.ne_other]
      · rw [serve_wire_other, Side.other_other]
        cases poll.next <;> simp [sends, inputTo, takesUp, Next.outcome, Wire.request]
  | @orphanDelivered caller index request operation poll found polled =>
      have kept : ∀ side, (before.serve caller.other operation poll
          (before.wire caller)).wire side = before.wire side := by
        refine (caller.other.forall_iff).mpr ⟨serve_wire, ?_⟩
        rw [serve_wire_other, Side.other_other]
      change ((before.serve caller.other operation poll
        (before.wire caller)).wire side).request.isSome = _
      rw [kept]
      simp [sends, inputTo, takesUp]
  | opened | reDrawn => exact (Bool.and_true _).symm

/-- What is on its way can be read off the events. -/
theorem onItsWay_iff {taken : List (Transition Network NetworkEvent)}
    (run : (machine parties).Run fresh taken network) :
    OnItsWay side taken ↔ (network.wire side).request.isSome = true := by
  refine run.since_iff (fun network => (network.wire side).request.isSome = true) _ _ nofun ?_
  intro _ _ _ _ earlier stepped
  rw [(sound_of_run earlier).request_of_step stepped side]
  simp

theorem Sound.crossed_iff (sound : Sound parties network) :
    Crossed network ↔ ∀ side, (network.wire side).request.isSome = true := by
  constructor
  · intro crossed side
    obtain ⟨_, request, _, -, sent⟩ := crossed side
    rw [sent]
    rfl
  · intro sent side
    obtain ⟨request, found⟩ := Option.isSome_iff_exists.mp (sent side)
    have wire := sound.wires side
    cases shape : network.wire side with
    | sent carried =>
        rw [shape] at wire found
        obtain ⟨op, closure, holds⟩ := wire.asks
        obtain rfl := Option.some.inj found
        exact ⟨op, carried, closure, holds, rfl⟩
    | idle | serving | answered =>
        rw [shape] at found
        cases found

/-- A step from requests that are not crossed crosses them exactly if it sends one while
the peer's is on its way. -/
theorem crosses_iff {taken : List (Transition Network NetworkEvent)}
    (run : (machine parties).Run fresh taken before)
    (stepped : before.step parties event = some after) (apart : ¬ Crossed before) :
    ¬ Crossed after ↔
      ∀ side, before.sends side event = true → ¬ OnItsWay side.other taken := by
  have sound := sound_of_run run
  rw [(sound.step stepped).crossed_iff]
  rw [sound.crossed_iff] at apart
  constructor
  · intro clear side sent waits
    rw [onItsWay_iff run] at waits
    obtain ⟨-, untaken⟩ := sends_alone sent
    refine clear ((side.forall_iff).mpr ⟨?_, ?_⟩) <;> rw [sound.request_of_step stepped]
    · rw [sent, Bool.true_or]
    · rw [waits, untaken, Bool.not_false, Bool.and_true, Bool.or_true]
  · intro clear crossed
    refine apart fun side => ?_
    by_contra quiet
    -- this side's request is the one that crosses, so the other's was on its way already
    have now := crossed side
    rw [sound.request_of_step stepped, Bool.eq_false_iff.mpr quiet, Bool.false_and,
      Bool.or_false] at now
    have theirs := crossed side.other
    rw [sound.request_of_step stepped, (sends_alone now).1, Bool.false_or, Bool.and_eq_true,
      ← onItsWay_iff run] at theirs
    exact clear side now theirs.1

/-- A run is free of crossing requests exactly if no event makes an operation send one
between an event that makes the peer's send and the one that takes that request up. -/
theorem no_crossing_iff {taken : List (Transition Network NetworkEvent)}
    (run : (machine parties).Run fresh taken network) :
    (∀ transition ∈ taken, ¬ Crossed transition.after) ↔ SendsApart taken := by
  have start : ¬ Crossed fresh := by
    intro crossed
    obtain ⟨_, _, _, -, sent⟩ := crossed .a
    cases sent
  exact run.stays_iff (fun network => ¬ Crossed network) _ start crosses_iff

/-- The proposal of node 2 is taken up before node 1 sends anything, so the two never
cross. -/
theorem no_crossing_iff_sample :
    ∃ network ∈ (machine Sample.parties).replay fresh
        [.start .b (.fillChannel 7), .start .a (.makePayment 5), .answerChain .b (.ok (.block 1)),
          .deliver .b],
      (network.node .a).entry = some (.otherCreating ⟨1, 2, 0, 7, 41, 5000, none, none⟩ true) ∧
        ∀ transition ∈ (machine Sample.parties).trace fresh
            [.start .b (.fillChannel 7), .start .a (.makePayment 5),
              .answerChain .b (.ok (.block 1)), .deliver .b],
          ¬ Crossed transition.after := by
  obtain ⟨network, reached, entry, apart⟩ : ∃ network ∈ (machine Sample.parties).replay fresh
        [.start .b (.fillChannel 7), .start .a (.makePayment 5), .answerChain .b (.ok (.block 1)),
          .deliver .b],
      (network.node .a).entry = some (.otherCreating ⟨1, 2, 0, 7, 41, 5000, none, none⟩ true) ∧
        SendsApart ((machine Sample.parties).trace fresh
            [.start .b (.fillChannel 7), .start .a (.makePayment 5),
              .answerChain .b (.ok (.block 1)), .deliver .b]) := by
    decide +kernel
  exact ⟨network, reached, entry, (no_crossing_iff (Machine.run_of_replay reached)).mpr apart⟩

/-- Both nodes fill at once: the two proposals cross, with nothing lost. -/
theorem fills_cross :
    ∃ taken network, (machine Sample.parties).Run fresh taken network ∧
      (∀ transition ∈ taken, lossless transition.event = true) ∧ Crossed network := by
  obtain ⟨network, reached, sent⟩ :
      ∃ network ∈ (machine Sample.parties).replay fresh
        [.start .a (.fillChannel 5), .start .b (.fillChannel 7),
          .answerChain .a (.ok (.block 1)), .answerChain .b (.ok (.block 1))],
        ∀ side, (network.wire side).request.isSome = true := by
    decide +kernel
  have run := Machine.run_of_replay reached
  exact ⟨_, network, run, by decide +kernel, (sound_of_run run).crossed_iff.mpr sent⟩

theorem Crossed.stays (crossed : Crossed before)
    (stepped : before.step parties event = some after) (kept : lossless event = true) :
    Crossed after := by
  have busy : ∀ side, (before.node side).running ≠ none := by
    intro side
    obtain ⟨_, _, _, holds, -⟩ := crossed side
    simp [holds]
  cases change_of_step stepped with
  | started polled => exact absurd (poll_start polled).1 (busy _)
  | @chainAnswered side _ _ _ _ _ _ holds =>
      obtain ⟨_, _, _, waits, -⟩ := crossed side
      cases holds.symm.trans waits
  | @lookedUp side _ _ _ _ _ _ holds =>
      obtain ⟨_, _, _, waits, -⟩ := crossed side
      cases holds.symm.trans waits
  | delivered _ polled | orphanDelivered _ polled =>
      exact absurd (poll_request polled).1 (busy _)
  | @replied side _ _ _ answered =>
      obtain ⟨_, _, _, -, sent⟩ := crossed side
      rw [answered] at sent
      cases sent
  | gaveUp => cases kept
  | opened | reDrawn => exact crossed

/-- A lossless run from crossed requests never gets out of them. -/
theorem crossed_forever {start : Network} {taken : List (Transition Network NetworkEvent)}
    (run : (machine parties).Run start taken network) (crossed : Crossed start)
    (kept : ∀ transition ∈ taken, lossless transition.event = true) : Crossed network :=
  run.invariant_of_guard Crossed (fun _ event => lossless event = true) crossed
    (fun _ _ _ crossed kept stepped => crossed.stays stepped kept) kept

end Network

end Guac
