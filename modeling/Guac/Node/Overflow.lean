import Guac.Core.Range
import Guac.Node.Enforceability
import Guac.Node.Signing

/-!
Owns where the arithmetic of an entry can be made to fail by what its peer sends:
the sums of `receive_payment`, the counter of a payment, and the channels on which
no later payment can be made. A handler that stores balances or a sequence number
no sum or counter has room for fails only later, so the condition is on every
message that is stored.

It does not own the amounts of the user: `fill_channel` and `withdraw` are left out
here.
-/

set_option autoImplicit false

namespace Guac

open Foundation

/-- The operations in which a message of the peer meets the arithmetic: the handlers
and the payments. -/
def Operation.meetsPeer : Operation → Bool
  | .handler _ => true
  | .user (.makePayment _) => true
  | .user (.fillChannel _) => false
  | .user (.withdraw _) => false
  | .user .checkAccrual => false

section Definitions

variable (crypto : Crypto) (theirAddress : Address)

/-- A handler or a payment panics in this poll. The answer a poll resumes with is
not itself a panic. -/
def Overflows (transition : Transition Node Input) : Prop :=
  transition.event ≠ .resume (.error .panic) ∧
    ∃ operation, operation.meetsPeer = true ∧
      transition.before.returned crypto theirAddress transition.event =
        some (operation, .error .panic)

/-- No arithmetic fails in this poll, and in the `Open` state it leaves none of a
later payment within the own balance does. -/
def Sound (transition : Transition Node Input) : Prop :=
  ¬ Overflows crypto theirAddress transition ∧
    ∀ channel, transition.after.entry = some (.opened channel) → channel.Payable

/-- What a message adds up to now: a newer signed update has sums in range, and a
sequence number the peer answers with has a successor. -/
def FitsNow (entry : Option Counterparty) (closure : Option Closure) : Input → Prop
  | .request (.receivePayment updateTx) =>
      ∀ channel, entry = some (.opened channel) →
        SignedByThem crypto theirAddress channel.iAm0 updateTx →
        channel.sequenceNumber.toNat < updateTx.sequenceNumber.toNat → channel.Sums updateTx
  | .resume (.ok (.maybeSeq (some currentSeq))) =>
      ∀ amount paid, closure = some (.paymentReply amount paid) →
        currentSeq.toNat + 1 < Uint256.size
  | _ => True

/-- What is stored has room for a later payment: the sequence number of a credited
update, the balances and the sequence number of a redraw that is concluded, and the
sequence number of a recorded payment. -/
def FitsLater (entry : Option Counterparty) (closure : Option Closure) : Input → Prop
  | .request (.receivePayment updateTx) =>
      ∀ channel, entry = some (.opened channel) →
        Creditable crypto theirAddress channel updateTx →
        updateTx.sequenceNumber.toNat + 1 < Uint256.size
  | .resume (.ok .unit) =>
      (∀ reDrawTx channel, closure = some (.checkedReDraw reDrawTx channel) →
        reDrawTx.newTotal < Uint256.size ∧
          reDrawTx.sequenceNumber.toNat + 1 < Uint256.size) ∧
      ∀ channel newBalance0 newBalance1,
        closure = some (.reDrawNotified channel newBalance0 newBalance1) →
        newBalance0.toNat + newBalance1.toNat < Uint256.size
  | .resume (.ok (.maybeSeq none)) =>
      ∀ amount paid, closure = some (.paymentReply amount paid) →
        paid.sequenceNumber.toNat + 1 < Uint256.size
  | _ => True

/-- The message of this transition fits, now and later. -/
def Fits (transition : Transition Node Input) : Prop :=
  let closure := transition.before.running.map Running.closure
  FitsNow crypto theirAddress transition.before.entry closure transition.event ∧
    FitsLater crypto theirAddress transition.before.entry closure transition.event

/-- The channel an entry pays from, or will pay from again once its own redraw is
through, is in range. -/
structure Ranged (node : Node) : Prop where
  coherent : Coherent crypto theirAddress node
  opened : ∀ channel, node.entry = some (.opened channel) → channel.InRange
  reDrawing : ∀ reDrawTx channel, node.entry = some (.reDrawing reDrawTx channel) →
    channel.InRange

end Definitions

variable {crypto : Crypto} {theirAddress : Address}

/-! ### Where a poll panics -/

theorem forbidden_bind_ne_panic {check : Bool} {label : String} {next : Unit → Result Unit}
    (rest : next () ≠ .error .panic) : (forbidden check label >>= next) ≠ .error .panic := by
  cases check
  · simp [forbidden, bind, Except.bind]
  · exact rest

theorem forbidden_ne_panic {check : Bool} {label : String} :
    forbidden check label ≠ .error .panic := by
  cases check <;> simp [forbidden]

theorem checkNewChannelTx_ne_panic {fromAddress : Address} {iAm0 : Bool} {tx : NewChannelTx} :
    checkNewChannelTx crypto fromAddress iAm0 tx ≠ .error .panic := by
  intro failed
  rcases bind_eq_error.mp failed with parties | ⟨_, -, rest⟩
  · unfold checkParties at parties
    split at parties
    · exact forbidden_bind_ne_panic forbidden_ne_panic parties
    · exact forbidden_bind_ne_panic forbidden_ne_panic parties
  · exact forbidden_bind_ne_panic forbidden_ne_panic rest

theorem checkReDrawTx_ne_panic {channel : Channel} {tx : ReDrawTx} :
    checkReDrawTx channel tx ≠ .error .panic := by
  refine forbidden_bind_ne_panic (forbidden_bind_ne_panic (forbidden_bind_ne_panic
    (forbidden_bind_ne_panic ?_)))
  split
  · exact forbidden_ne_panic
  · exact forbidden_ne_panic

/-- `receive_payment` panics on a signed, newer update that does not add up. -/
theorem receiveUpdate_panics_iff
    (answers : ∀ signature data, crypto.primitives.recover signature data ≠ .error .panic)
    {channel : Channel} {updateTx : UpdateTx} (inRange : channel.total < Uint256.size) :
    receiveUpdate crypto theirAddress channel updateTx = .error .panic ↔
      SignedByThem crypto theirAddress channel.iAm0 updateTx ∧
        channel.sequenceNumber.toNat < updateTx.sequenceNumber.toNat ∧
        ¬ channel.Sums updateTx := by
  by_cases signed : SignedByThem crypto theirAddress channel.iAm0 updateTx
  · rw [receiveUpdate_eq signed, Channel.receivePayment_panics_iff inRange]
    simp only [signed, true_and]
  · refine iff_of_false (fun failed => signed ?_) fun both => signed both.1
    unfold receiveUpdate at failed
    rcases bind_eq_error.mp failed with missing | ⟨signature, slot, failed⟩
    · unfold okOr at missing
      split at missing <;> cases missing
    rcases bind_eq_error.mp failed with impossible | ⟨recovered, recovers, failed⟩
    · exact absurd impossible (answers _ _)
    · split at failed
      · cases failed
      next same =>
        obtain rfl := not_not.mp same
        exact ⟨signature, okOr_eq_ok.mp slot, recovers⟩

theorem request_panics_iff {request : Request} {entry : Option Counterparty} :
    (request.start crypto theirAddress entry).next = .resolved (.error .panic) ↔
      ∃ updateTx channel, request = .receivePayment updateTx ∧
        entry = some (.opened channel) ∧
        receiveUpdate crypto theirAddress channel updateTx = .error .panic := by
  constructor
  · intro panics
    cases request with
    | proposeChannel newChannelTx =>
        simp only [Request.start, proposeChannel] at panics
        split at panics
        · split at panics
          next fault failed =>
            obtain rfl := Except.error.inj (Next.resolved.inj panics)
            exact absurd failed checkNewChannelTx_ne_panic
          next => cases panics
        · cases panics
    | proposeReDraw reDrawTx =>
        simp only [Request.start, proposeReDraw, withCounterparty] at panics
        split at panics
        · split at panics
          · split at panics
            next fault failed =>
              obtain rfl := Except.error.inj (Next.resolved.inj panics)
              exact absurd failed checkReDrawTx_ne_panic
            next => cases panics
          · cases panics
        next missing =>
          cases entry with
          | none =>
              cases missing
              cases panics
          | some => cases missing
    | notifyChannelOpened =>
        cases entry with
        | none => cases panics
        | some counterparty => cases counterparty <;> cases panics
    | notifyReDraw =>
        cases entry with
        | none => cases panics
        | some counterparty => cases counterparty <;> cases panics
    | receivePayment updateTx =>
        cases entry with
        | none => cases panics
        | some counterparty =>
            cases counterparty with
            | opened channel =>
                refine ⟨updateTx, channel, rfl, rfl, ?_⟩
                cases answered : receiveUpdate crypto theirAddress channel updateTx with
                | error fault =>
                    simp only [Request.start, receivePayment, withCounterparty,
                      checkForCounterparty, okOr, answered] at panics
                    rw [Except.error.inj (Next.resolved.inj panics)]
                | ok result =>
                    simp only [Request.start, receivePayment, withCounterparty,
                      checkForCounterparty, okOr, answered] at panics
                    cases panics
            | new | creating | otherCreating | reDrawing | otherReDrawing => cases panics
  · rintro ⟨updateTx, channel, rfl, rfl, panics⟩
    simp only [Request.start, receivePayment, withCounterparty, checkForCounterparty, okOr, panics]
    rfl

theorem fitsNow_of_closure {entry : Option Counterparty} {closure : Option Closure}
    {answer : Result Value} (other : ∀ amount paid, closure ≠ some (.paymentReply amount paid)) :
    FitsNow crypto theirAddress entry closure (.resume answer) := by
  unfold FitsNow
  split
  · trivial
  · intro amount paid same
    exact absurd same (other amount paid)
  · trivial

section Polls

variable {node after : Node} {input : Input} {operation : Operation} {poll : Poll}

/-- A transition overflows where its poll panics. -/
theorem overflows_iff_panics
    (polled : node.poll crypto theirAddress input = some (operation, poll)) :
    Overflows crypto theirAddress ⟨node, input, after⟩ ↔
      input ≠ .resume (.error .panic) ∧ operation.meetsPeer = true ∧
        poll.next = .resolved (.error .panic) := by
  refine and_congr_right fun _ => ?_
  constructor
  · rintro ⟨held, meets, returns⟩
    obtain ⟨last, same, resolved⟩ := returned_eq_some.mp returns
    obtain ⟨rfl, rfl⟩ := Prod.mk.inj (Option.some.inj (polled.symm.trans same))
    exact ⟨meets, resolved⟩
  · rintro ⟨meets, resolved⟩
    exact ⟨operation, meets, returned_eq_some.mpr ⟨poll, polled, resolved⟩⟩

theorem Ranged.request_misfits_iff (ranged : Ranged crypto theirAddress node)
    (answers : ∀ signature data, crypto.primitives.recover signature data ≠ .error .panic)
    {request : Request} {closure : Option Closure} :
    (request.start crypto theirAddress node.entry).next = .resolved (.error .panic) ↔
      ¬ FitsNow crypto theirAddress node.entry closure (.request request) := by
  rw [request_panics_iff]
  constructor
  · rintro ⟨updateTx, channel, rfl, found, panics⟩ fits
    obtain ⟨signed, newer, overflow⟩ :=
      (receiveUpdate_panics_iff answers (ranged.opened channel found).total).mp panics
    exact overflow (fits channel found signed newer)
  · intro misfits
    by_contra fine
    apply misfits
    cases request with
    | receivePayment updateTx =>
        intro channel found signed newer
        by_contra overflow
        refine fine ⟨updateTx, channel, rfl, found, ?_⟩
        exact (receiveUpdate_panics_iff answers (ranged.opened channel found).total).mpr
          ⟨signed, newer, overflow⟩
    | proposeChannel | proposeReDraw | notifyChannelOpened | notifyReDraw => trivial

theorem reply_misfits_iff {entry : Option Counterparty} {amount : Uint256} {paid : Channel}
    {reply : Option Uint256} (total : paid.total < Uint256.size) :
    (makePaymentOnReply crypto entry amount paid reply).next = .resolved (.error .panic) ↔
      ¬ FitsNow crypto theirAddress entry (some (.paymentReply amount paid))
        (.resume (.ok (.maybeSeq reply))) := by
  rw [makePaymentOnReply_panics_iff total]
  constructor
  · rintro ⟨currentSeq, rfl, large⟩ fits
    exact Nat.not_le_of_lt (fits _ _ rfl) large
  · intro misfits
    cases reply with
    | none => exact absurd trivial misfits
    | some currentSeq =>
        refine ⟨currentSeq, rfl, ?_⟩
        by_contra counts
        exact misfits fun _ _ _ => Nat.lt_of_not_le counts

theorem resumed_ne_panic {counterparty : Counterparty} {call : Call} {closure : Closure}
    {value : Value} (held : Held crypto theirAddress counterparty ⟨operation, call, closure⟩)
    (other : ∀ amount paid, closure ≠ .paymentReply amount paid)
    (meets : operation.meetsPeer = true)
    (resumed : closure.apply crypto theirAddress node.entry value = some poll) :
    poll.next ≠ .resolved (.error .panic) := by
  intro panics
  cases held with
  | fillNewBlock | fillNewSignature | fillNewDeposited | fillNewNotified => cases meets
  | reDrawBlock kind | reDrawSignature kind | reDrawSubmitted kind | reDrawNotified kind =>
      cases kind <;> cases meets
  | paymentReply amount channel pays => exact other _ _ rfl
  | retryReply =>
      cases value with
      | maybeSeq reply =>
          obtain rfl := Option.some.inj resumed
          cases reply <;> cases panics
      | _ => cases resumed
  | checkedOpen =>
      cases value with
      | maybeChannelId maybeChannelId =>
          obtain rfl := Option.some.inj resumed
          cases maybeChannelId <;> cases panics
      | _ => cases resumed
  | checkedReDraw =>
      cases value with
      | unit =>
          obtain rfl := Option.some.inj resumed
          cases panics
      | _ => cases resumed

/-- A poll of a node in range overflows exactly on a message that does not fit. -/
theorem Ranged.overflows_iff (ranged : Ranged crypto theirAddress node)
    (answers : ∀ signature data, crypto.primitives.recover signature data ≠ .error .panic)
    (polled : node.poll crypto theirAddress input = some (operation, poll)) :
    Overflows crypto theirAddress ⟨node, input, after⟩ ↔
      ¬ FitsNow crypto theirAddress node.entry (node.running.map Running.closure) input := by
  rw [overflows_iff_panics polled]
  cases input with
  | start op =>
      obtain ⟨-, rfl, rfl⟩ := poll_start polled
      refine iff_of_false ?_ (not_not.mpr trivial)
      rintro ⟨-, meets, panics⟩
      cases op with
      | makePayment amount => exact makePayment_ne_panic ranged.opened panics
      | fillChannel | withdraw | checkAccrual => cases meets
  | request request =>
      obtain ⟨-, rfl, rfl⟩ := poll_request polled
      rw [← ranged.request_misfits_iff answers]
      exact ⟨fun both => both.2.2, fun panics => ⟨by simp, rfl, panics⟩⟩
  | resume answer =>
      obtain ⟨⟨_, call, closure⟩, holds, rfl, resumed⟩ := poll_resume polled
      obtain ⟨counterparty, found, held⟩ := ranged.coherent.held _ holds
      rw [holds]
      cases answer with
      | error fault =>
          obtain rfl := Option.some.inj resumed
          refine iff_of_false ?_ (not_not.mpr trivial)
          rintro ⟨different, -, panics⟩
          exact different (congrArg Input.resume (Next.resolved.inj panics))
      | ok value =>
          by_cases payment : ∃ amount paid, closure = .paymentReply amount paid
          · obtain ⟨amount, paid, rfl⟩ := payment
            cases held with
            | paymentReply _ channel pays =>
                cases value with
                | maybeSeq reply =>
                    obtain rfl := Option.some.inj resumed
                    have total := (ranged.opened channel found).total
                    rw [← pays.total] at total
                    change _ ↔ ¬ FitsNow crypto theirAddress node.entry
                      (some (.paymentReply amount paid)) _
                    rw [← reply_misfits_iff total]
                    exact ⟨fun both => both.2.2, fun panics => ⟨by simp, rfl, panics⟩⟩
                | _ => cases resumed
          · have other : ∀ amount paid, closure ≠ .paymentReply amount paid :=
              fun amount paid same => payment ⟨amount, paid, same⟩
            refine iff_of_false ?_ (not_not.mpr (fitsNow_of_closure ?_))
            · rintro ⟨-, meets, panics⟩
              exact resumed_ne_panic held other meets resumed panics
            · exact fun amount paid same => other amount paid (Option.some.inj same)

theorem total_of_proposed {iAm0 : Bool} {amount expiration : Uint256} {tx : NewChannelTx}
    (proposed : tx = proposedChannel crypto theirAddress iAm0 amount expiration) :
    tx.total = amount.toNat := by
  rw [proposed]
  cases iAm0 <;> simp [NewChannelTx.total, proposedChannel]

theorem ProposalOk.total_lt {iAm0 : Bool} {tx : NewChannelTx}
    (checked : ProposalOk crypto theirAddress iAm0 tx) : tx.total < Uint256.size := by
  have mine := checked.mine
  have bound0 := tx.balance0.toNat_lt
  have bound1 := tx.balance1.toNat_lt
  unfold NewChannelTx.total
  cases iAm0
  · rw [if_neg Bool.false_ne_true] at mine
    simpa [mine] using bound0
  · rw [if_pos rfl] at mine
    simpa [mine] using bound1

/-- The closures that store a channel of the counterparty's making: a redraw, or a
payment it acknowledged. -/
def Closure.stores : Closure → Bool
  | .checkedReDraw _ _ => true
  | .reDrawNotified _ _ _ => true
  | .paymentReply _ _ => true
  | _ => false

theorem fitsLater_of_closure {entry : Option Counterparty} {closure : Option Closure}
    {answer : Result Value} (quiet : ∀ known, closure = some known → known.stores = false) :
    FitsLater crypto theirAddress entry closure (.resume answer) := by
  unfold FitsLater
  split
  next => trivial
  next =>
    refine ⟨fun reDrawTx channel same => ?_, fun channel newBalance0 newBalance1 same => ?_⟩
    · cases quiet _ same
    · cases quiet _ same
  next =>
    intro amount paid same
    cases quiet _ same
  next => trivial

/-- Every other poll leaves a channel in range. -/
theorem Ranged.opened_after (ranged : Ranged crypto theirAddress node)
    (polled : node.poll crypto theirAddress input = some (operation, poll))
    (other : ∀ updateTx, input ≠ .request (.receivePayment updateTx))
    (quiet : ∀ known, node.running.map Running.closure = some known → known.stores = false) :
    ∀ channel, poll.entry = some (.opened channel) → channel.InRange := by
  obtain ⟨entry, closure, found, suspended, move, -, resumes⟩ := ranged.coherent.moved polled
  have unchanged := ranged.opened
  have backed := ranged.coherent.backed
  rw [found] at unchanged backed
  rw [suspended] at quiet
  cases move with
  | failed | proposeNew | deposited | startReDraw | proposeReDraw | submitted | retryPayment
  | retryAccepted | checkOpen | checkReDraw | stalePayment | pay => exact unchanged
  | refused kept =>
      rcases kept with rfl | ⟨rfl, rfl⟩
      · exact unchanged
      · rintro _ ⟨⟩
  | fillNew | signNew | signReDraw | acceptChannel | acceptReDraw => rintro _ ⟨⟩
  | reDrawnAsProposer | savePayment | reDrawnAsResponder => cases quiet _ rfl
  | acceptPayment => exact absurd rfl (other _)
  | accrue accrued =>
      cases accrued with
      | opened channel =>
          rintro _ ⟨⟩
          exact ⟨(unchanged channel rfl).total, (unchanged channel rfl).counts⟩
      | reDrawing => rintro _ ⟨⟩
      | otherReDrawing => rintro _ ⟨⟩
  | openedAsProposer =>
      obtain ⟨_, _, rfl, -, held⟩ := resumes _ rfl
      rintro _ ⟨⟩
      cases held with
      | fillNewNotified iAm0 amount expiration channelId proposed =>
          exact ⟨(total_of_proposed proposed).trans_lt amount.toNat_lt, by simp [Uint256.size]⟩
  | openedAsResponder =>
      obtain ⟨_, _, rfl, -, held⟩ := resumes _ rfl
      rintro _ ⟨⟩
      cases held with
      | checkedOpen => exact ⟨backed.2.2.total_lt, by simp [Uint256.size]⟩

theorem Ranged.receives (ranged : Ranged crypto theirAddress node) {updateTx : UpdateTx}
    (stepped : node.step crypto theirAddress (.request (.receivePayment updateTx)) = some after) :
    (∀ channel, after.entry = some (.opened channel) → channel.Payable) ↔
      FitsLater crypto theirAddress node.entry none (.request (.receivePayment updateTx)) := by
  by_cases isOpen : ∃ channel, node.entry = some (.opened channel)
  · obtain ⟨channel, found⟩ := isOpen
    have inRange := ranged.opened channel found
    rcases receivePayment_entry found stepped with
      ⟨kept, refused⟩ | ⟨creditable, stored, left, accepts⟩
    · refine iff_of_true ?_ ?_
      · intro same left
        obtain rfl := Counterparty.opened.inj (Option.some.inj (kept.symm.trans left))
        exact Channel.payable_iff.mpr inRange
      · intro same found' creditable
        obtain rfl := Counterparty.opened.inj (Option.some.inj (found.symm.trans found'))
        exact absurd creditable refused
    · constructor
      · intro payable _ _ _
        have counts := (Channel.payable_iff.mp (payable stored left)).counts
        rw [accepts.sequenceNumber] at counts
        exact counts
      · intro fits same left'
        obtain rfl := Counterparty.opened.inj (Option.some.inj (left.symm.trans left'))
        refine Channel.payable_iff.mpr ⟨?_, ?_⟩
        · rw [accepts.total]
          exact inRange.total
        · rw [accepts.sequenceNumber]
          exact fits channel found creditable
  · obtain ⟨operation, poll, polled, rfl⟩ := step_eq_some.mp stepped
    obtain ⟨-, -, rfl⟩ := poll_request polled
    refine iff_of_true ?_ fun channel found => absurd ⟨channel, found⟩ isOpen
    intro channel left
    refine absurd ⟨channel, ?_⟩ isOpen
    rw [← left]
    cases found : node.entry with
    | none => rfl
    | some counterparty =>
        cases counterparty with
        | opened channel => exact absurd ⟨channel, found⟩ isOpen
        | new | creating | otherCreating | reDrawing | otherReDrawing => rfl

/-- A poll leaves a channel that can pay exactly if what it stores fits. -/
theorem Ranged.payable_after_iff (ranged : Ranged crypto theirAddress node)
    (polled : node.poll crypto theirAddress input = some (operation, poll)) :
    (∀ channel, poll.entry = some (.opened channel) → channel.Payable) ↔
      FitsLater crypto theirAddress node.entry (node.running.map Running.closure) input := by
  have payable : (∀ channel, poll.entry = some (.opened channel) → channel.Payable) ↔
      ∀ channel, poll.entry = some (.opened channel) → channel.InRange :=
    forall₂_congr fun channel _ => Channel.payable_iff
  have quiet : node.running = none → ∀ known, node.running.map Running.closure = some known →
      known.stores = false := by
    intro idle known suspended
    rw [idle] at suspended
    cases suspended
  cases input with
  | start op =>
      obtain ⟨idle, -, -⟩ := poll_start polled
      exact iff_of_true (payable.mpr (ranged.opened_after polled (by simp) (quiet idle))) trivial
  | request request =>
      obtain ⟨idle, -, -⟩ := poll_request polled
      cases request with
      | receivePayment updateTx => exact ranged.receives (step_eq_some.mpr ⟨_, _, polled, rfl⟩)
      | proposeChannel | proposeReDraw | notifyChannelOpened | notifyReDraw =>
          exact iff_of_true (payable.mpr (ranged.opened_after polled (by simp) (quiet idle)))
            trivial
  | resume answer =>
      obtain ⟨⟨_, call, closure⟩, holds, rfl, resumed⟩ := poll_resume polled
      obtain ⟨counterparty, found, held⟩ := ranged.coherent.held _ holds
      by_cases quiet : closure.stores = false
      · have quiet : ∀ known, node.running.map Running.closure = some known →
            known.stores = false := by
          rw [holds]
          rintro _ ⟨⟩
          exact quiet
        exact iff_of_true (payable.mpr (ranged.opened_after polled (by simp) quiet))
          (fitsLater_of_closure quiet)
      rw [payable, holds]
      cases answer with
      | error fault =>
          obtain rfl := Option.some.inj resumed
          exact iff_of_true ranged.opened trivial
      | ok value =>
          cases held with
          | paymentReply amount channel pays =>
              cases value with
              | maybeSeq reply =>
                  obtain rfl := Option.some.inj resumed
                  have total := (ranged.opened channel found).total
                  rw [← pays.total] at total
                  cases reply with
                  | none =>
                      constructor
                      · rintro inRange _ _ ⟨⟩
                        exact (inRange _ rfl).counts
                      · rintro fits _ ⟨⟩
                        exact ⟨total, fits _ _ rfl⟩
                  | some currentSeq =>
                      refine iff_of_true ?_ trivial
                      rw [makePaymentOnReply_entry]
                      exact ranged.opened
              | _ => cases resumed
          | reDrawNotified kind amount channel =>
              cases value with
              | unit =>
                  obtain rfl := Option.some.inj resumed
                  constructor
                  · intro inRange
                    refine ⟨nofun, ?_⟩
                    rintro _ _ _ ⟨⟩
                    exact (inRange _ rfl).total
                  · rintro fits _ ⟨⟩
                    exact ⟨fits.2 _ _ _ rfl, (ranged.reDrawing _ _ found).counts⟩
              | _ => cases resumed
          | checkedReDraw reDrawTx channel =>
              cases value with
              | unit =>
                  obtain rfl := Option.some.inj resumed
                  constructor
                  · intro inRange
                    refine ⟨?_, nofun⟩
                    rintro _ _ ⟨⟩
                    exact ⟨(inRange _ rfl).total, (inRange _ rfl).counts⟩
                  · rintro fits _ ⟨⟩
                    exact ⟨(fits.1 _ _ rfl).1, (fits.1 _ _ rfl).2⟩
              | _ => cases resumed
          | _ => exact absurd rfl quiet

theorem Ranged.of_poll (ranged : Ranged crypto theirAddress node)
    (polled : node.poll crypto theirAddress input = some (operation, poll))
    (payable : ∀ channel, poll.entry = some (.opened channel) → channel.Payable) :
    Ranged crypto theirAddress (node.after operation poll) where
  coherent := ranged.coherent.step (step_eq_some.mpr ⟨operation, poll, polled, rfl⟩)
  opened channel left := Channel.payable_iff.mp (payable channel left)
  reDrawing reDrawTx channel left := by
    change poll.entry = _ at left
    obtain ⟨entry, closure, found, -, move, -, resumes⟩ := ranged.coherent.moved polled
    have opened := ranged.opened
    have unchanged := ranged.reDrawing
    rw [found] at opened unchanged
    cases move with
    | failed | proposeNew | deposited | proposeReDraw | submitted | retryPayment
    | retryAccepted => exact unchanged reDrawTx channel left
    | refused kept =>
        rcases kept with rfl | ⟨rfl, rfl⟩
        · exact unchanged reDrawTx channel left
        · cases left
    | signReDraw =>
        obtain ⟨_, _, rfl, -, held⟩ := resumes _ rfl
        cases left
        cases held
        exact opened _ rfl
    | accrue accrued =>
        cases accrued with
        | reDrawing =>
            cases left
            exact ⟨(unchanged _ _ rfl).total, (unchanged _ _ rfl).counts⟩
        | opened | otherReDrawing => cases left
    | _ => cases left

end Polls

/-! ### Whole runs -/

section Runs

variable {taken : List (Transition Node Input)} {node : Node}

/-- No message of the peer makes the arithmetic fail, then or later, exactly in the runs
whose messages all fit. -/
theorem arithmetic_sound_iff
    (answers : ∀ signature data, crypto.primitives.recover signature data ≠ .error .panic)
    (run : (entryMachine crypto theirAddress).Run .fresh taken node) :
    (∀ transition ∈ taken, Sound crypto theirAddress transition) ↔
      ∀ transition ∈ taken, Fits crypto theirAddress transition := by
  have sound_iff : ∀ before input after, Ranged crypto theirAddress before →
      before.step crypto theirAddress input = some after →
      (Sound crypto theirAddress ⟨before, input, after⟩ ↔
        Fits crypto theirAddress ⟨before, input, after⟩) := by
    intro before input after ranged stepped
    obtain ⟨operation, poll, polled, rfl⟩ := step_eq_some.mp stepped
    exact and_congr ((not_congr (ranged.overflows_iff answers polled)).trans not_not)
      (ranged.payable_after_iff polled)
  have kept : ∀ before input after, Ranged crypto theirAddress before →
      before.step crypto theirAddress input = some after →
      Fits crypto theirAddress ⟨before, input, after⟩ → Ranged crypto theirAddress after := by
    intro before input after ranged stepped fits
    obtain ⟨operation, poll, polled, rfl⟩ := step_eq_some.mp stepped
    exact ranged.of_poll polled ((ranged.payable_after_iff polled).mpr fits.2)
  exact run.forall_iff (Ranged crypto theirAddress) _ _ ⟨coherent_fresh, nofun, nofun⟩
    (fun _ => sound_iff _ _ _) fun _ => kept _ _ _

end Runs

namespace Sample

def signedBy2 (updateTx : UpdateTx) : UpdateTx :=
  updateTx.setSignature false ((Sample.crypto 2).ethSign (updateTx.fingerprint (Sample.crypto 2)))

def sends (updateTx : UpdateTx) : List Input :=
  (paysOver 7).take 3 ++ [.request (.receivePayment (signedBy2 updateTx))]

end Sample

/-- A payment of 2 fits and is credited. -/
theorem arithmetic_sound_iff_sample :
    ∃ node ∈ (entryMachine (Sample.crypto 1) 2).replay .fresh
        (Sample.sends ⟨7, 1, 2, 3, none, none⟩),
      node.entry = some (.opened ⟨7, 1, 2, 3, 2, true⟩) ∧
        ((∀ transition ∈ (entryMachine (Sample.crypto 1) 2).trace .fresh
            (Sample.sends ⟨7, 1, 2, 3, none, none⟩), Sound (Sample.crypto 1) 2 transition) ↔
          ∀ transition ∈ (entryMachine (Sample.crypto 1) 2).trace .fresh
            (Sample.sends ⟨7, 1, 2, 3, none, none⟩), Fits (Sample.crypto 1) 2 transition) := by
  obtain ⟨node, reached, entry⟩ :
      ∃ node ∈ (entryMachine (Sample.crypto 1) 2).replay .fresh
          (Sample.sends ⟨7, 1, 2, 3, none, none⟩),
        node.entry = some (.opened ⟨7, 1, 2, 3, 2, true⟩) := by
    decide +kernel
  exact ⟨node, reached, entry,
    arithmetic_sound_iff Sample.recover_answers (Machine.run_of_replay reached)⟩

/-- An update whose balances sum to `2^256` panics; one with the last sequence number
is credited, and no payment can be made after it. -/
theorem peer_breaks_arithmetic :
    (∃ taken node, (entryMachine (Sample.crypto 1) 2).Run .fresh taken node ∧
      ∃ transition ∈ taken, Overflows (Sample.crypto 1) 2 transition) ∧
      ∃ taken node channel, (entryMachine (Sample.crypto 1) 2).Run .fresh taken node ∧
        node.entry = some (.opened channel) ∧ ¬ channel.Payable := by
  constructor
  · let request : Request :=
      .receivePayment (Sample.signedBy2 ⟨7, 1, Sample.largest, 1, none, none⟩)
    obtain ⟨opened, reached, after, stepped, returns⟩ :
        ∃ opened ∈ (entryMachine (Sample.crypto 1) 2).replay .fresh ((Sample.paysOver 7).take 3),
          ∃ after ∈ opened.step (Sample.crypto 1) 2 (.request request),
            opened.returned (Sample.crypto 1) 2 (.request request) =
              some (.handler request, .error .panic) := by
      decide +kernel
    exact ⟨_, after, .snoc (Machine.run_of_replay reached) stepped, _,
      List.mem_append_right _ (List.mem_singleton.mpr rfl), nofun, _, rfl, returns⟩
  · obtain ⟨node, reached, entry⟩ :
        ∃ node ∈ (entryMachine (Sample.crypto 1) 2).replay .fresh
            (Sample.sends ⟨7, Sample.largest, 2, 3, none, none⟩),
          node.entry = some (.opened ⟨7, Sample.largest, 2, 3, 2, true⟩) := by
      decide +kernel
    refine ⟨_, node, _, Machine.run_of_replay reached, entry, fun payable => ?_⟩
    exact absurd (Channel.payable_iff.mp payable).counts (by decide)

end Guac
