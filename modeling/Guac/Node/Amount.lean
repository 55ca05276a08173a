import Guac.Core.Range
import Guac.Node.Rollback

/-!
Owns which amounts a channel can carry, and what the three operations of the user do
with the others. `make_payment` checks its subtraction; `fill_channel` and `withdraw` compute
the new balance with the panicking `+` and `-`, and nothing bounds the new total.

It does not own the arithmetic that a message of the peer meets: `Overflow` does.
-/

set_option autoImplicit false

namespace Guac

/-- An operation its user may ask for on this copy of the channel: a fill within the
range of the total, or a withdrawal or payment of what the user owns. -/
def UserOp.Valid (channel : Channel) : UserOp → Prop
  | .fillChannel amount => channel.total + amount.toNat < Uint256.size
  | .withdraw amount => amount.toNat ≤ channel.myBalance.toNat
  | .makePayment amount => amount.toNat ≤ channel.myBalance.toNat
  | .checkAccrual => False

instance (channel : Channel) : (op : UserOp) → Decidable (op.Valid channel)
  | .fillChannel amount =>
      inferInstanceAs (Decidable (channel.total + amount.toNat < Uint256.size))
  | .withdraw amount => inferInstanceAs (Decidable (amount.toNat ≤ channel.myBalance.toNat))
  | .makePayment amount => inferInstanceAs (Decidable (amount.toNat ≤ channel.myBalance.toNat))
  | .checkAccrual => inferInstanceAs (Decidable False)

/-- The block the call is told has room for the lifetime of a proposal. -/
def BlockFits (answers : List (Result Value)) : Prop :=
  ∀ block, answers.head? = some (.ok (.block block)) → block.toNat + 40 < Uint256.size

/-- A sequence number the peer names instead of accepting has a successor. -/
def ReplyFits (answers : List (Result Value)) : Prop :=
  ∀ currentSeq, answers.head? = some (.ok (.maybeSeq (some currentSeq))) →
    currentSeq.toNat + 1 < Uint256.size

/-- When an operation handles its amount as it should. -/
def UserOp.AmountFits (channel : Channel) (answers : List (Result Value)) : UserOp → Prop
  | .fillChannel amount => channel.total + amount.toNat < Uint256.size ∧ BlockFits answers
  | .withdraw amount => amount.toNat ≤ channel.myBalance.toNat ∧ BlockFits answers
  | .makePayment amount => amount.toNat ≤ channel.myBalance.toNat → ReplyFits answers
  | .checkAccrual => True

section Definitions

variable (crypto : Crypto) (theirAddress : Address)

/-- No poll of the call panics, and an amount that is not valid is answered with an error
at once, the stored entry unchanged. -/
structure RefusesAmount (channel : Channel) (op : UserOp) (answers : List (Result Value)) :
    Prop where
  computes : ∀ given, given <+: answers → ∀ poll,
    op.call crypto theirAddress (some (.opened channel)) given = some poll →
    poll.next ≠ .resolved (.error .panic)
  refuses : ¬ op.Valid channel → ∃ fault, fault ≠ .panic ∧
    op.start crypto theirAddress (some (.opened channel)) = .fail (some (.opened channel)) fault

end Definitions

/-- The closures that no longer add or subtract anything. -/
def Closure.calm : Closure → Bool
  | .fillNewBlock _ _ => false
  | .reDrawBlock _ _ _ _ _ => false
  | .paymentReply _ _ => false
  | _ => true

/-- A poll that does not panic, with no arithmetic left to do. -/
structure Poll.Calm (poll : Poll) : Prop where
  returns : poll.next ≠ .resolved (.error .panic)
  goesOn : ∀ call closure, poll.next = .suspended call closure → closure.calm = true

section Calls

variable {crypto : Crypto} {theirAddress : Address} {entry : Option Counterparty}

theorem calm_of_fail {fault : Fault} (noPanic : fault ≠ .panic) : (Poll.fail entry fault).Calm where
  returns panics := noPanic (Except.error.inj (Next.resolved.inj panics))
  goesOn _ _ same := by cases same

theorem calm_of_succeed {value : Value} : (Poll.succeed entry value).Calm where
  returns panics := by cases panics
  goesOn _ _ same := by cases same

theorem calm_of_await {call : Call} {closure : Closure} (calm : closure.calm = true) :
    (Poll.await entry call closure).Calm where
  returns panics := by cases panics
  goesOn _ _ same := (Next.suspended.inj same).2 ▸ calm

theorem Poll.Calm.resign {poll : Poll} (calm : poll.Calm) (signed : List SignedTx) :
    Poll.Calm { poll with signed } := ⟨calm.returns, calm.goesOn⟩

theorem calm_of_fillNewOnSignature
    (answers : ∀ signature data, crypto.primitives.recover signature data ≠ .error .panic)
    {iAm0 : Bool} {amount : Uint256} {tx : NewChannelTx} {signature : Signature} :
    (fillNewOnSignature crypto theirAddress entry iAm0 amount tx signature).Calm := by
  unfold fillNewOnSignature
  simp only
  split
  next fault failed => exact calm_of_fail fun panics => answers _ _ (panics ▸ failed)
  split
  · exact calm_of_fail nofun
  · exact (@calm_of_await (some (.creating tx iAm0)) _ (.fillNewDeposited iAm0 _ _) rfl).resign _

theorem calm_of_reDrawOnSignature
    (answers : ∀ signature data, crypto.primitives.recover signature data ≠ .error .panic)
    {kind : ReDrawKind} {amount : Uint256} {channel : Channel} {newBalance0 newBalance1 : Uint256}
    {tx : ReDrawTx} {signature : Signature} :
    (reDrawOnSignature crypto theirAddress entry kind amount channel newBalance0 newBalance1 tx
      signature).Calm := by
  unfold reDrawOnSignature
  simp only
  split
  next fault failed => exact calm_of_fail fun panics => answers _ _ (panics ▸ failed)
  split
  · exact calm_of_fail nofun
  · exact (@calm_of_await (some (.reDrawing tx channel)) _
      (.reDrawSubmitted channel _ _) rfl).resign _

theorem calm_of_resume
    (answers : ∀ signature data, crypto.primitives.recover signature data ≠ .error .panic)
    {closure : Closure} {answer : Result Value} {next : Poll} (calm : closure.calm = true)
    (noPanic : answer ≠ .error .panic)
    (resumed : closure.resume crypto theirAddress entry answer = some next) : next.Calm := by
  cases answer with
  | error fault =>
      obtain rfl := Option.some.inj resumed
      exact calm_of_fail fun panics => noPanic (congrArg Except.error panics)
  | ok value =>
      change closure.apply crypto theirAddress entry value = some next at resumed
      unfold Closure.apply at resumed
      split at resumed <;> cases resumed
      · cases calm
      · exact calm_of_fillNewOnSignature answers
      · exact calm_of_await rfl
      · exact calm_of_succeed
      · cases calm
      · exact calm_of_reDrawOnSignature answers
      · exact calm_of_await rfl
      · exact calm_of_succeed
      · cases calm
      next reply =>
        cases reply with
        | none => exact calm_of_succeed
        | some currentSeq => exact calm_of_fail nofun
      next maybeChannelId =>
        cases maybeChannelId with
        | none => exact calm_of_fail nofun
        | some channelId => exact calm_of_succeed
      · exact calm_of_succeed

theorem Poll.Calm.drive
    (answers : ∀ signature data, crypto.primitives.recover signature data ≠ .error .panic)
    {poll last : Poll} {given : List (Result Value)} (calm : poll.Calm)
    (noPanic : ∀ answer ∈ given, answer ≠ .error .panic)
    (driven : poll.drive crypto theirAddress given = some last) : last.Calm := by
  induction given generalizing poll with
  | nil =>
      obtain rfl := Option.some.inj driven
      exact calm
  | cons answer rest inductionHypothesis =>
      cases shape : poll.next with
      | resolved result => cases (Poll.drive_resolved shape driven).1
      | suspended call closure =>
          obtain ⟨next, resumed, driven⟩ := Poll.drive_suspended shape driven
          have onward := calm_of_resume answers (calm.goesOn call closure shape)
            (noPanic answer List.mem_cons_self) resumed
          exact inductionHypothesis (onward.resign _)
            (fun later member => noPanic later (List.mem_cons_of_mem _ member)) driven

/-- Where only the first answer can make a call panic, no poll of the call panics
exactly if the one that takes that answer does not. -/
theorem computes_iff
    (answers : ∀ signature data, crypto.primitives.recover signature data ≠ .error .panic)
    {start : Poll} {call : Call} {closure : Closure} {given : List (Result Value)}
    (waits : start.next = .suspended call closure)
    (noPanic : ∀ answer ∈ given, answer ≠ .error .panic)
    (first : ∀ answer next, answer ≠ .error .panic →
      closure.resume crypto theirAddress start.entry answer = some next →
      next.next ≠ .resolved (.error .panic) → next.Calm) :
    (∀ taken, taken <+: given → ∀ poll,
        start.drive crypto theirAddress taken = some poll →
        poll.next ≠ .resolved (.error .panic)) ↔
      ∀ answer, given.head? = some answer → ∀ next,
        closure.resume crypto theirAddress start.entry answer = some next →
        next.next ≠ .resolved (.error .panic) := by
  constructor
  · intro computes answer isHead next resumed
    cases given with
    | nil => cases isHead
    | cons head rest =>
        obtain rfl := Option.some.inj isHead
        refine computes [head] ⟨rest, rfl⟩ { next with signed := start.signed ++ next.signed } ?_
        simp only [Poll.drive, waits, resumed]
  · intro fits taken isPrefix poll driven
    cases taken with
    | nil =>
        obtain rfl := Option.some.inj driven
        rw [waits]
        intro same
        cases same
    | cons answer rest =>
        obtain ⟨later, rfl⟩ := isPrefix
        obtain ⟨next, resumed, driven⟩ := Poll.drive_suspended waits driven
        have calm := first answer next (noPanic answer (by simp)) resumed
          (fits _ rfl next resumed)
        refine ((calm.resign _).drive answers (fun other member => ?_) driven).returns
        exact noPanic other (by simp [member])

end Calls

section ReDraw

variable {crypto : Crypto} {theirAddress : Address} {entry : Option Counterparty}
  {kind : ReDrawKind} {channel : Channel} {amount newBalance0 newBalance1 : Uint256}
  {given : List (Result Value)}

theorem start_eq_reDrawStart :
    (kind.op amount).start crypto theirAddress (some (.opened channel)) =
      reDrawStart kind amount channel := by
  cases kind <;> rfl

theorem reDrawBalances_error {fault : Fault}
    (failed : reDrawBalances kind channel amount = .error fault) : fault = .panic := by
  unfold reDrawBalances at failed
  cases kind with
  | fill =>
      rcases bind_eq_error.mp failed with overflow | ⟨mine, -, impossible⟩
      · exact (Uint256.add_error overflow).1
      · cases impossible
  | withdraw =>
      rcases bind_eq_error.mp failed with underflow | ⟨mine, -, impossible⟩
      · exact (Uint256.sub_error underflow).1
      · cases impossible

theorem reDrawBalances_ok :
    reDrawBalances kind channel amount = .ok (newBalance0, newBalance1) ↔
      ∃ value, (match kind with
        | .fill => channel.myBalance.add amount
        | .withdraw => channel.myBalance.sub amount) = .ok value ∧
        (if channel.iAm0 then (value, channel.balance1) else (channel.balance0, value)) =
          (newBalance0, newBalance1) := by
  unfold reDrawBalances
  cases kind with
  | fill | withdraw =>
      simp only [bind_eq_ok, Except.ok.injEq]

theorem reDrawBalances_other {newBalance0 newBalance1 : Uint256}
    (balances : reDrawBalances kind channel amount = .ok (newBalance0, newBalance1)) :
    if channel.iAm0 then newBalance1 = channel.balance1 else newBalance0 = channel.balance0 := by
  obtain ⟨value, -, same⟩ := reDrawBalances_ok.mp balances
  cases role : channel.iAm0
  · rw [role] at same
    exact (Prod.mk.inj same).1.symm
  · rw [role] at same
    exact (Prod.mk.inj same).2.symm

theorem reDrawBalances_succeeds (valid : (kind.op amount).Valid channel) :
    ∃ newBalance0 newBalance1,
      reDrawBalances kind channel amount = .ok (newBalance0, newBalance1) := by
  suffices computed : ∃ value, (match kind with
      | .fill => channel.myBalance.add amount
      | .withdraw => channel.myBalance.sub amount) = .ok value by
    obtain ⟨value, computed⟩ := computed
    exact ⟨_, _, reDrawBalances_ok.mpr ⟨value, computed, rfl⟩⟩
  cases kind with
  | fill =>
      have total := channel.total_eq
      have fits : channel.total + amount.toNat < Uint256.size := valid
      exact Uint256.add_succeeds (by omega)
  | withdraw => exact Uint256.sub_succeeds valid

/-- The poll that takes the block panics where the block has no room, and is calm
elsewhere. -/
theorem reDrawOnBlock_panics_iff {block : Uint256}
    (counts : channel.sequenceNumber.toNat + 1 < Uint256.size) :
    (reDrawOnBlock entry kind amount channel newBalance0 newBalance1 block).next =
        .resolved (.error .panic) ↔ Uint256.size ≤ block.toNat + 40 := by
  obtain ⟨next, counted⟩ := @Uint256.add_succeeds channel.sequenceNumber 1 counts
  have panics := @Uint256.add_eq_panic block 40
  change _ ↔ Uint256.size ≤ block.toNat + 40 at panics
  rw [← panics]
  cases added : block.add 40 with
  | error fault =>
      simp [reDrawOnBlock, counted, added, bind, Except.bind, Poll.fail]
  | ok expiration =>
      simp [reDrawOnBlock, counted, added, bind, Except.bind, Poll.await]

theorem reDrawOnBlock_calm {block : Uint256}
    (computes : (reDrawOnBlock entry kind amount channel newBalance0 newBalance1 block).next ≠
      .resolved (.error .panic)) :
    (reDrawOnBlock entry kind amount channel newBalance0 newBalance1 block).Calm := by
  unfold reDrawOnBlock
  split
  next fault failed =>
    refine calm_of_fail fun panics => computes ?_
    subst panics
    simp only [reDrawOnBlock, failed]
    rfl
  next => exact calm_of_await rfl

theorem reDrawBlock_resumes {answer : Result Value} {next : Poll}
    (resumed : (Closure.reDrawBlock kind amount channel newBalance0 newBalance1).resume crypto
      theirAddress entry answer = some next) :
    (∃ fault, answer = .error fault ∧ next = .fail entry fault) ∨
      ∃ block, answer = .ok (.block block) ∧
        next = reDrawOnBlock entry kind amount channel newBalance0 newBalance1 block := by
  cases answer with
  | error fault => exact .inl ⟨fault, rfl, (Option.some.inj resumed).symm⟩
  | ok value =>
      cases value with
      | block block => exact .inr ⟨block, rfl, (Option.some.inj resumed).symm⟩
      | _ => cases resumed

theorem reDraw_computes_iff
    (answers : ∀ signature data, crypto.primitives.recover signature data ≠ .error .panic)
    (counts : channel.sequenceNumber.toNat + 1 < Uint256.size)
    (noPanic : ∀ answer ∈ given, answer ≠ .error .panic)
    (balances : reDrawBalances kind channel amount = .ok (newBalance0, newBalance1)) :
    (∀ taken, taken <+: given → ∀ poll,
        (kind.op amount).call crypto theirAddress (some (.opened channel)) taken = some poll →
        poll.next ≠ .resolved (.error .panic)) ↔ BlockFits given := by
  have starts : (kind.op amount).start crypto theirAddress (some (.opened channel)) =
      .await (some (.opened channel)) (.chain .getCurrentBlock)
        (.reDrawBlock kind amount channel newBalance0 newBalance1) := by
    rw [start_eq_reDrawStart, reDrawStart, balances]
  unfold UserOp.call
  rw [starts, computes_iff answers rfl noPanic]
  · constructor
    · intro fits block isHead
      by_contra large
      refine fits _ isHead _ rfl ?_
      exact (reDrawOnBlock_panics_iff counts).mpr (Nat.le_of_not_lt large)
    · intro fits answer isHead next resumed panics
      obtain ⟨fault, rfl, rfl⟩ | ⟨block, rfl, rfl⟩ := reDrawBlock_resumes resumed
      · exact noPanic _ (List.mem_of_head? isHead) (Next.resolved.inj panics)
      · exact Nat.not_le_of_lt (fits block isHead) ((reDrawOnBlock_panics_iff counts).mp panics)
  · intro answer next fine resumed computes
    obtain ⟨fault, rfl, rfl⟩ | ⟨block, rfl, rfl⟩ := reDrawBlock_resumes resumed
    · exact calm_of_fail fun panics => fine (congrArg Except.error panics)
    · exact reDrawOnBlock_calm computes

/-- A redraw handles its amount as it should exactly if the amount is valid and the
block has room. -/
theorem reDraw_refuses_iff
    (answers : ∀ signature data, crypto.primitives.recover signature data ≠ .error .panic)
    (counts : channel.sequenceNumber.toNat + 1 < Uint256.size)
    (noPanic : ∀ answer ∈ given, answer ≠ .error .panic) :
    RefusesAmount crypto theirAddress channel (kind.op amount) given ↔
      (kind.op amount).Valid channel ∧ BlockFits given := by
  constructor
  · intro refuses
    have valid : (kind.op amount).Valid channel := by
      by_contra excessive
      obtain ⟨fault, noPanic, failed⟩ := refuses.refuses excessive
      rw [start_eq_reDrawStart, reDrawStart] at failed
      split at failed
      next other overflow =>
        obtain rfl := reDrawBalances_error overflow
        exact noPanic (Except.error.inj (Next.resolved.inj (Poll.mk.inj failed).2.2)).symm
      next => cases failed
    obtain ⟨newBalance0, newBalance1, balances⟩ := reDrawBalances_succeeds valid
    exact ⟨valid, (reDraw_computes_iff answers counts noPanic balances).mp refuses.computes⟩
  · rintro ⟨valid, fits⟩
    obtain ⟨newBalance0, newBalance1, balances⟩ := reDrawBalances_succeeds valid
    exact ⟨(reDraw_computes_iff answers counts noPanic balances).mpr fits,
      fun excessive => absurd valid excessive⟩

end ReDraw

section Payment

variable {crypto : Crypto} {theirAddress : Address} {entry : Option Counterparty}
  {channel : Channel} {amount : Uint256} {given : List (Result Value)}

theorem paymentReply_resumes {paid : Channel} {answer : Result Value} {next : Poll}
    (resumed : (Closure.paymentReply amount paid).resume crypto theirAddress entry answer =
      some next) :
    (∃ fault, answer = .error fault ∧ next = .fail entry fault) ∨
      ∃ reply, answer = .ok (.maybeSeq reply) ∧
        next = makePaymentOnReply crypto entry amount paid reply := by
  cases answer with
  | error fault => exact .inl ⟨fault, rfl, (Option.some.inj resumed).symm⟩
  | ok value =>
      cases value with
      | maybeSeq reply => exact .inr ⟨reply, rfl, (Option.some.inj resumed).symm⟩
      | _ => cases resumed

theorem makePaymentOnReply_calm {paid : Channel} {reply : Option Uint256}
    (computes : (makePaymentOnReply crypto entry amount paid reply).next ≠
      .resolved (.error .panic)) :
    (makePaymentOnReply crypto entry amount paid reply).Calm := by
  cases reply with
  | none => exact calm_of_succeed
  | some currentSeq =>
      cases made : paid.makePayment amount (some currentSeq) with
      | error fault =>
          simp only [makePaymentOnReply, made] at computes ⊢
          exact calm_of_fail fun panics => computes (by rw [panics]; rfl)
      | ok result =>
          simp only [makePaymentOnReply, made]
          exact (@calm_of_await entry _ .retryReply rfl).resign _

theorem makePayment_refuses (inRange : channel.InRange)
    (short : ¬ (UserOp.makePayment amount).Valid channel) :
    (UserOp.makePayment amount).start crypto theirAddress (some (.opened channel)) =
      .fail (some (.opened channel)) (.guac (.notEnough "money in channel.")) := by
  have failed : channel.makePayment amount none =
      .error (.guac (.notEnough "money in channel.")) := by
    cases made : channel.makePayment amount none with
    | error fault =>
        rcases Channel.makePayment_error made with rfl | ⟨rfl, -⟩
        · exact absurd ((Channel.makePayment_panics_iff inRange.total).mp made)
            (Nat.not_le_of_lt inRange.counts)
        · rfl
    | ok result =>
        have mine := (Channel.makePayment_ok made).1.mine
        exact absurd (show amount.toNat ≤ channel.myBalance.toNat by omega) short
  simp only [UserOp.start, makePayment, withCounterparty, checkForCounterparty, okOr, failed]

/-- A payment handles its amount as it should exactly if a sequence number the peer
names has a successor, or the amount is refused. -/
theorem payment_refuses_iff
    (answers : ∀ signature data, crypto.primitives.recover signature data ≠ .error .panic)
    (inRange : channel.InRange) (noPanic : ∀ answer ∈ given, answer ≠ .error .panic) :
    RefusesAmount crypto theirAddress channel (.makePayment amount) given ↔
      ((UserOp.makePayment amount).Valid channel → ReplyFits given) := by
  by_cases valid : (UserOp.makePayment amount).Valid channel
  swap
  · have start := @makePayment_refuses crypto theirAddress _ _ inRange valid
    refine iff_of_true ⟨fun taken _ poll called => ?_,
      fun _ => ⟨.guac (.notEnough "money in channel."), nofun, start⟩⟩
      fun within => absurd within valid
    unfold UserOp.call at called
    rw [start] at called
    obtain ⟨-, rfl⟩ := Poll.drive_resolved rfl called
    nofun
  have fits : channel.theirBalance.toNat + amount.toNat < Uint256.size := by
    have total := channel.total_eq
    have bound := inRange.total
    have enough : amount.toNat ≤ channel.myBalance.toNat := valid
    omega
  obtain ⟨paid, made⟩ := @Channel.makePayment_succeeds channel amount none valid inRange.counts fits
  have total : paid.total < Uint256.size := by
    rw [(Channel.makePayment_ok made).1.total]
    exact inRange.total
  have start : (UserOp.makePayment amount).start crypto theirAddress (some (.opened channel)) =
      sendPayment crypto (some (.opened channel)) paid paid.toUpdate
        (.paymentReply amount paid) := by
    simp only [UserOp.start, makePayment, withCounterparty, checkForCounterparty, okOr, made]
  have computes : (∀ taken, taken <+: given → ∀ poll,
      (UserOp.makePayment amount).call crypto theirAddress (some (.opened channel)) taken =
        some poll → poll.next ≠ .resolved (.error .panic)) ↔ ReplyFits given := by
    unfold UserOp.call
    rw [start, computes_iff answers rfl noPanic]
    · constructor
      · intro fits currentSeq isHead
        by_contra large
        refine fits _ isHead _ rfl ?_
        exact (makePaymentOnReply_panics_iff total).mpr
          ⟨currentSeq, rfl, Nat.le_of_not_lt large⟩
      · intro fits answer isHead next resumed panics
        obtain ⟨fault, rfl, rfl⟩ | ⟨reply, rfl, rfl⟩ := paymentReply_resumes resumed
        · exact noPanic _ (List.mem_of_head? isHead) (Next.resolved.inj panics)
        · obtain ⟨currentSeq, rfl, large⟩ := (makePaymentOnReply_panics_iff total).mp panics
          exact Nat.not_le_of_lt (fits currentSeq isHead) large
    · intro answer next fine resumed computes
      obtain ⟨fault, rfl, rfl⟩ | ⟨reply, rfl, rfl⟩ := paymentReply_resumes resumed
      · exact calm_of_fail fun panics => fine (congrArg Except.error panics)
      · exact makePaymentOnReply_calm computes
  exact ⟨fun refuses _ => computes.mp refuses.computes,
    fun fits => ⟨computes.mpr (fits valid), fun short => absurd valid short⟩⟩

end Payment

/-- The user operations that take an amount refuse what the channel cannot carry, and
their arithmetic stays in range, exactly where the amount fits. -/
theorem amount_refused_iff {crypto : Crypto} {theirAddress : Address} {channel : Channel}
    {op : UserOp} {given : List (Result Value)}
    (answers : ∀ signature data, crypto.primitives.recover signature data ≠ .error .panic)
    (inRange : channel.InRange) (takesAmount : op ≠ .checkAccrual)
    (noPanic : ∀ answer ∈ given, answer ≠ .error .panic) :
    RefusesAmount crypto theirAddress channel op given ↔ op.AmountFits channel given := by
  cases op with
  | fillChannel amount => exact @reDraw_refuses_iff _ _ .fill _ _ _ answers inRange.counts noPanic
  | withdraw amount => exact @reDraw_refuses_iff _ _ .withdraw _ _ _ answers inRange.counts noPanic
  | makePayment amount => exact payment_refuses_iff answers inRange noPanic
  | checkAccrual => exact absurd rfl takesAmount

/-- A withdrawal of 4 out of 10. -/
theorem amount_refused_iff_sample :
    RefusesAmount (Sample.crypto 1) 2 ⟨7, 0, 10, 0, 0, true⟩ (.withdraw 4) [.ok (.block 1)] := by
  have inRange : Channel.InRange ⟨7, 0, 10, 0, 0, true⟩ := ⟨by decide, by decide⟩
  refine (amount_refused_iff Sample.recover_answers inRange (by decide) (by simp)).mpr ⟨?_, ?_⟩
  · decide
  · rintro block ⟨⟩
    decide

/-- A withdrawal of 11 out of 10 panics, and so does a fill above the range; a fill that
takes the total alone above it is not refused. -/
theorem excessive_amount_not_refused :
    ¬ RefusesAmount (Sample.crypto 1) 2 ⟨7, 0, 10, 0, 0, true⟩ (.withdraw 11) [] ∧
      ¬ RefusesAmount (Sample.crypto 1) 2 ⟨7, 0, 10, 0, 0, true⟩ (.fillChannel Sample.largest) [] ∧
      ¬ RefusesAmount (Sample.crypto 1) 2 ⟨7, 0, 0, 10, 0, true⟩ (.fillChannel Sample.largest)
        [] := by
  have refuses : ∀ (channel : Channel) (kind : ReDrawKind) (amount : Uint256),
      channel.sequenceNumber.toNat + 1 < Uint256.size → ¬ (kind.op amount).Valid channel →
      ¬ RefusesAmount (Sample.crypto 1) 2 channel (kind.op amount) [] :=
    fun channel kind amount counts excessive refuses =>
      excessive ((reDraw_refuses_iff Sample.recover_answers counts (by simp)).mp refuses).1
  exact ⟨refuses _ .withdraw 11 (by decide) (by decide),
    refuses _ .fill Sample.largest (by decide) (by decide),
    refuses _ .fill Sample.largest (by decide) (by decide)⟩

end Guac
