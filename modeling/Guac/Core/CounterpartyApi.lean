import Guac.Core.ChannelManager

/-!
Owns the inbound handlers of `counterparty_api.rs` and the polls of a whole
node entry: which closure takes which answer, and which poll an input starts.

`fromAddress` is whatever address the request claims; the handlers of one entry
are those called with the address the entry is stored under.
-/

set_option autoImplicit false

namespace Guac

/-- `forbidden!`: refuse the request unless the check passes. -/
def forbidden (check : Bool) (label : String) : Result Unit :=
  if check then .ok () else .error (.guac (.forbidden label))

theorem forbidden_eq_ok {check : Bool} {label : String} :
    forbidden check label = .ok () ↔ check = true := by
  cases check <;> simp [forbidden]

theorem forbidden_bind_eq_ok {α : Type} {check : Bool} {label : String}
    {next : Unit → Result α} {result : α} :
    (forbidden check label >>= next) = .ok result ↔ check = true ∧ next () = .ok result := by
  cases check <;> simp [forbidden, bind, Except.bind]

/-- `Display` of a `Uint256`. -/
def Uint256.display (value : Uint256) : String := toString value.toNat

/-- `Debug` of a `[u8; 32]`. -/
def debugBytes (word : Bytes32) : String :=
  "[" ++ ", ".intercalate ((wordBytes word).map fun byte => toString byte.toNat) ++ "]"

/-! ### `propose_channel` -/

/-- The checks of `propose_channel` on the two addresses. -/
def checkParties (crypto : Crypto) (fromAddress : Address) (iAm0 : Bool)
    (tx : NewChannelTx) : Result Unit :=
  let display := crypto.primitives.addressToString
  if iAm0 then do
    forbidden (tx.address0 == crypto.ownAddress)
      ("Address 0 (" ++ display tx.address0 ++ ") should equal my address (" ++
        display crypto.ownAddress ++ ")")
    forbidden (tx.address1 == fromAddress)
      ("Address 1 (" ++ display tx.address1 ++ ") should equal your address (" ++
        display fromAddress ++ ")")
  else do
    forbidden (tx.address1 == crypto.ownAddress)
      ("Address 1 (" ++ display tx.address1 ++ ") should equal my address (" ++
        display crypto.ownAddress ++ ")")
    forbidden (tx.address0 == fromAddress)
      ("Address 0 (" ++ display tx.address0 ++ ") should equal your address (" ++
        display fromAddress ++ ")")

def checkNewChannelTx (crypto : Crypto) (fromAddress : Address) (iAm0 : Bool)
    (tx : NewChannelTx) : Result Unit := do
  checkParties crypto fromAddress iAm0 tx
  forbidden ((if iAm0 then tx.balance0 else tx.balance1) == 0)
    "My balance in proposed channel must be zero."
  forbidden (tx.settlingPeriodLength == 5000)
    "I only accept settling periods of 5000 blocks"

/-- What a node with role `iAm0` signs a proposal for: the two parties in role
order, nothing of its own, and a settling period of 5000 blocks. -/
structure ProposalOk (crypto : Crypto) (fromAddress : Address) (iAm0 : Bool)
    (tx : NewChannelTx) : Prop where
  address0 : tx.address0 = if iAm0 then crypto.ownAddress else fromAddress
  address1 : tx.address1 = if iAm0 then fromAddress else crypto.ownAddress
  mine : (if iAm0 then tx.balance0 else tx.balance1) = 0
  settling : tx.settlingPeriodLength = 5000

theorem checkNewChannelTx_ok {crypto : Crypto} {fromAddress : Address} {iAm0 : Bool}
    {tx : NewChannelTx} :
    checkNewChannelTx crypto fromAddress iAm0 tx = .ok () ↔
      ProposalOk crypto fromAddress iAm0 tx := by
  unfold checkNewChannelTx checkParties
  constructor
  · intro checked
    obtain ⟨⟨⟩, parties, checked⟩ := bind_eq_ok.mp checked
    simp only [forbidden_bind_eq_ok, forbidden_eq_ok, beq_iff_eq] at checked
    obtain ⟨mine, settling⟩ := checked
    cases iAm0
    · simp only [Bool.false_eq_true, if_false, forbidden_bind_eq_ok, forbidden_eq_ok,
        beq_iff_eq] at parties
      exact ⟨parties.2, parties.1, mine, settling⟩
    · simp only [if_true, forbidden_bind_eq_ok, forbidden_eq_ok, beq_iff_eq] at parties
      exact ⟨parties.1, parties.2, mine, settling⟩
  · rintro ⟨address0, address1, mine, settling⟩
    refine bind_eq_ok.mpr ⟨(), ?_, ?_⟩
    · cases iAm0 <;> simp_all [forbidden_bind_eq_ok, forbidden_eq_ok]
    · simp [forbidden_bind_eq_ok, forbidden_eq_ok, mine, settling]

def proposeChannel (crypto : Crypto) (fromAddress : Address) (newChannelTx : NewChannelTx)
    (entry : Option Counterparty) : Poll :=
  match makeCounterpartyIfNone fromAddress crypto.ownAddress entry with
  | .new iAm0 =>
      match checkNewChannelTx crypto fromAddress iAm0 newChannelTx with
      | .error fault => .fail (some (.new iAm0)) fault
      | .ok () =>
          { entry := some (.otherCreating newChannelTx iAm0)
            signed := [.newChannel newChannelTx.unsigned]
            next := .resolved
              (.ok (.signature (crypto.ethSign (newChannelTx.fingerprint crypto)))) }
  | other => .fail (some other) (.guac (.wrongState "propose channel" other "New"))

/-! ### `propose_re_draw` -/

def checkReDrawTx (channel : Channel) (tx : ReDrawTx) : Result Unit := do
  forbidden (tx.channelId == channel.channelId)
    ("Channel ID (" ++ debugBytes tx.channelId ++ ") should equal my saved channel ID (" ++
      debugBytes channel.channelId ++ ")")
  forbidden (decide (channel.sequenceNumber < tx.sequenceNumber))
    ("Sequence number (" ++ tx.sequenceNumber.display ++ ") should be higher than " ++
      channel.sequenceNumber.display)
  forbidden (tx.oldBalance0 == channel.balance0)
    ("Old balance_0 (" ++ tx.oldBalance0.display ++ ") should equal " ++
      channel.balance0.display)
  forbidden (tx.oldBalance1 == channel.balance1)
    ("Old balance_1 (" ++ tx.oldBalance1.display ++ ") should equal " ++
      channel.balance1.display)
  if channel.iAm0 then
    forbidden (tx.newBalance0 == channel.balance0)
      ("New balance_0 (" ++ tx.newBalance0.display ++ ") should equal my balance (" ++
        channel.balance0.display ++ ")")
  else
    forbidden (tx.newBalance1 == channel.balance1)
      ("New balance_1 (" ++ tx.newBalance1.display ++ ") should equal my balance (" ++
        channel.balance1.display ++ ")")

/-- What a node signs a redraw for: the stored channel, a newer sequence number,
the stored balances as old ones, and its own balance unchanged. -/
structure ReDrawOk (channel : Channel) (tx : ReDrawTx) : Prop where
  channelId : tx.channelId = channel.channelId
  newer : channel.sequenceNumber < tx.sequenceNumber
  oldBalance0 : tx.oldBalance0 = channel.balance0
  oldBalance1 : tx.oldBalance1 = channel.balance1
  mine : (if channel.iAm0 then tx.newBalance0 else tx.newBalance1) = channel.myBalance

theorem checkReDrawTx_ok {channel : Channel} {tx : ReDrawTx} :
    checkReDrawTx channel tx = .ok () ↔ ReDrawOk channel tx := by
  unfold checkReDrawTx
  simp only [forbidden_bind_eq_ok, beq_iff_eq, decide_eq_true_eq]
  constructor
  · rintro ⟨channelId, newer, oldBalance0, oldBalance1, mine⟩
    refine ⟨channelId, newer, oldBalance0, oldBalance1, ?_⟩
    unfold Channel.myBalance
    cases role : channel.iAm0 <;> simpa [role, forbidden_eq_ok] using mine
  · rintro ⟨channelId, newer, oldBalance0, oldBalance1, mine⟩
    refine ⟨channelId, newer, oldBalance0, oldBalance1, ?_⟩
    unfold Channel.myBalance at mine
    cases role : channel.iAm0 <;> simpa [role, forbidden_eq_ok] using mine

def proposeReDraw (crypto : Crypto) (reDrawTx : ReDrawTx) (entry : Option Counterparty) :
    Poll :=
  withCounterparty entry fun counterparty =>
    match counterparty with
    | .opened channel =>
        match checkReDrawTx channel reDrawTx with
        | .error fault => .fail entry fault
        | .ok () =>
            { entry := some (.otherReDrawing reDrawTx channel)
              signed := [.reDraw reDrawTx.unsigned]
              next := .resolved
                (.ok (.signature (crypto.ethSign (reDrawTx.fingerprint crypto)))) }
    | other => .fail entry (.guac (.wrongState "propose redraw" other "Open"))

/-! ### `notify_channel_opened` and `notify_re_draw` -/

/-- `notify_channel_opened`: look for the event of the two addresses. -/
def notifyChannelOpened (crypto : Crypto) (fromAddress : Address)
    (entry : Option Counterparty) : Poll :=
  withCounterparty entry fun counterparty =>
    match counterparty with
    | .otherCreating newChannelTx iAm0 =>
        let address0 := if iAm0 then crypto.ownAddress else fromAddress
        let address1 := if iAm0 then fromAddress else crypto.ownAddress
        .await entry (.chain (.checkForOpen address0 address1)) (.checkedOpen iAm0 newChannelTx)
    | other =>
        .fail entry (.guac (.wrongState "notify channel opened" other "OtherCreating"))

/-- With the answer of the chain: go to `Open` with the balances remembered. -/
def notifyChannelOpenedOnChecked (entry : Option Counterparty) (iAm0 : Bool)
    (newChannelTx : NewChannelTx) (maybeChannelId : Option Bytes32) : Poll :=
  match maybeChannelId with
  | some channelId =>
      .succeed (some (.opened
        { channelId
          sequenceNumber := 0
          balance0 := newChannelTx.balance0
          balance1 := newChannelTx.balance1
          iAm0
          accrual := 0 })) .unit
  | none => .fail entry (.failure "Cannot confirm that channel was opened")

/-- `notify_re_draw`: look for the event of the channel. -/
def notifyReDraw (entry : Option Counterparty) : Poll :=
  withCounterparty entry fun counterparty =>
    match counterparty with
    | .otherReDrawing reDrawTx channel =>
        .await entry (.chain (.checkForReDraw channel.channelId))
          (.checkedReDraw reDrawTx channel)
    | other => .fail entry (.guac (.wrongState "notify redraw" other "OtherReDrawing"))

/-- With the answer of the chain: go to `Open` with the redrawn balances. -/
def notifyReDrawOnChecked (reDrawTx : ReDrawTx) (channel : Channel) : Poll :=
  .succeed (some (.opened
    { channel with
      balance0 := reDrawTx.newBalance0
      balance1 := reDrawTx.newBalance1
      sequenceNumber := reDrawTx.sequenceNumber })) .unit

/-! ### `receive_payment` -/

/-- The signature the peer put in its slot. -/
def theirSignature (iAm0 : Bool) (updateTx : UpdateTx) : Option Signature :=
  if iAm0 then updateTx.signature1 else updateTx.signature0

/-- The checks and the update of `receive_payment` on an open channel. -/
def receiveUpdate (crypto : Crypto) (fromAddress : Address) (channel : Channel)
    (updateTx : UpdateTx) : Result (Channel × Option Uint256) := do
  let signature ← okOr (theirSignature channel.iAm0 updateTx)
    (.guac (.forbidden "No signature supplied"))
  let recoveredAddress ← signature.recover crypto (updateTx.fingerprint crypto)
  if recoveredAddress ≠ fromAddress then
    .error (.guac (.forbidden "Your signature is incorrect"))
  else channel.receivePayment updateTx

def receivePayment (crypto : Crypto) (fromAddress : Address) (updateTx : UpdateTx)
    (entry : Option Counterparty) : Poll :=
  withCounterparty entry fun counterparty =>
    match counterparty with
    | .opened channel =>
        match receiveUpdate crypto fromAddress channel updateTx with
        | .error fault => .fail entry fault
        | .ok (received, maybeSeq) => .succeed (some (.opened received)) (.maybeSeq maybeSeq)
    | other => .fail entry (.guac (.wrongState "receive payment" other "Open"))

/-! ### The polls of one entry -/

def Request.start (crypto : Crypto) (fromAddress : Address) (entry : Option Counterparty) :
    Request → Poll
  | .proposeChannel newChannelTx => Guac.proposeChannel crypto fromAddress newChannelTx entry
  | .proposeReDraw reDrawTx => Guac.proposeReDraw crypto reDrawTx entry
  | .notifyChannelOpened => Guac.notifyChannelOpened crypto fromAddress entry
  | .notifyReDraw => Guac.notifyReDraw entry
  | .receivePayment updateTx => Guac.receivePayment crypto fromAddress updateTx entry

/-- The poll that hands `value` to a closure; `none` where the closure takes
another type. -/
def Closure.apply (crypto : Crypto) (theirAddress : Address) (entry : Option Counterparty) :
    Closure → Value → Option Poll
  | .fillNewBlock iAm0 amount, .block block =>
      some (fillNewOnBlock crypto theirAddress entry iAm0 amount block)
  | .fillNewSignature iAm0 amount newChannelTx, .signature signature =>
      some (fillNewOnSignature crypto theirAddress entry iAm0 amount newChannelTx signature)
  | .fillNewDeposited iAm0 balance0 balance1, .channelId channelId =>
      some (fillNewOnDeposited entry iAm0 balance0 balance1 channelId)
  | .fillNewNotified iAm0 balance0 balance1 channelId, .unit =>
      some (fillNewOnNotified iAm0 balance0 balance1 channelId)
  | .reDrawBlock kind amount channel newBalance0 newBalance1, .block block =>
      some (reDrawOnBlock entry kind amount channel newBalance0 newBalance1 block)
  | .reDrawSignature kind amount channel newBalance0 newBalance1 reDrawTx,
      .signature signature =>
      some (reDrawOnSignature crypto theirAddress entry kind amount channel newBalance0
        newBalance1 reDrawTx signature)
  | .reDrawSubmitted channel newBalance0 newBalance1, .unit =>
      some (reDrawOnSubmitted entry channel newBalance0 newBalance1)
  | .reDrawNotified channel newBalance0 newBalance1, .unit =>
      some (reDrawOnNotified channel newBalance0 newBalance1)
  | .paymentReply amount channel, .maybeSeq reply =>
      some (makePaymentOnReply crypto entry amount channel reply)
  | .retryReply, .maybeSeq reply => some (makePaymentOnRetryReply entry reply)
  | .checkedOpen iAm0 newChannelTx, .maybeChannelId maybeChannelId =>
      some (notifyChannelOpenedOnChecked entry iAm0 newChannelTx maybeChannelId)
  | .checkedReDraw reDrawTx channel, .unit => some (notifyReDrawOnChecked reDrawTx channel)
  | _, _ => none

/-- The poll that resumes a closure: an error ends the operation, as `?` and
`and_then` do. -/
def Closure.resume (crypto : Crypto) (theirAddress : Address) (entry : Option Counterparty)
    (closure : Closure) : Result Value → Option Poll
  | .error fault => some (.fail entry fault)
  | .ok value => closure.apply crypto theirAddress entry value

end Guac
