import Guac.Network.Agreement

/-!
Owns payments over a network that loses requests and replies. The payee records
a payment when it takes it up, the payer only once it hears of that. A payer that
never hears keeps the balance it had, above the payee's copy of it; the copies
hold the same balances at rest exactly as long as this has not happened.
-/

set_option autoImplicit false

namespace Guac

open Foundation

/-- Two copies, from the two ends of a channel, that hold the same balances. -/
structure Channel.Mirrors (mine theirs : Channel) : Prop where
  iAm0 : mine.iAm0 = !theirs.iAm0
  balance0 : mine.balance0 = theirs.balance0
  balance1 : mine.balance1 = theirs.balance1

/-- An attempt to pay an amount: the closure that waits for the reply, and the
channel the update states. A second attempt pays from the copy the first one
left. -/
inductive Channel.Attempt (channel : Channel) (amount : Uint256) : Closure → Channel → Prop
  | first {paid : Channel} (pays : Paid channel amount none paid) :
      Attempt channel amount (.paymentReply amount paid) paid
  | second {paid stated : Channel} {currentSeq : Uint256} (pays : Paid channel amount none paid)
      (again : Paid paid amount (some currentSeq) stated) :
      Attempt channel amount .retryReply stated

namespace Channel

section Copies

variable {payer payee received stated : Channel} {amount : Uint256} {closure : Closure}
  {updateTx : UpdateTx}

theorem Mirrors.symm (mirrors : payer.Mirrors payee) : payee.Mirrors payer where
  iAm0 := by rw [mirrors.iAm0, Bool.not_not]
  balance0 := mirrors.balance0.symm
  balance1 := mirrors.balance1.symm

theorem Mirrors.theirBalance (mirrors : payer.Mirrors payee) :
    payer.theirBalance = payee.myBalance := by
  unfold Channel.theirBalance Channel.myBalance
  rw [mirrors.iAm0, mirrors.balance0, mirrors.balance1]
  cases payee.iAm0 <;> rfl

theorem Attempt.iAm0 (attempt : payer.Attempt amount closure stated) :
    stated.iAm0 = payer.iAm0 := by
  cases attempt with
  | first pays => exact pays.iAm0
  | second pays again => exact again.iAm0.trans pays.iAm0

theorem Attempt.total (attempt : payer.Attempt amount closure stated) :
    stated.total = payer.total := by
  cases attempt with
  | first pays => exact pays.total
  | second pays again => exact again.total.trans pays.total

/-- An attempt takes the amount from the payer, a second one twice. -/
theorem Attempt.takes (attempt : payer.Attempt amount closure stated) :
    stated.myBalance.toNat + amount.toNat ≤ payer.myBalance.toNat := by
  cases attempt with
  | first pays => exact Nat.le_of_eq pays.mine
  | second pays again =>
      have first := pays.mine
      have next := again.mine
      omega

theorem Attempt.free (attempt : payer.Attempt 0 closure stated)
    (mirrors : stated.Mirrors payee) : payer.Mirrors payee := by
  have role := attempt.iAm0
  have mine : stated.myBalance = payer.myBalance := by
    rw [Uint256.eq_iff]
    cases attempt with
    | first pays => exact pays.mine
    | second pays again => exact again.mine.trans pays.mine
  have theirs : stated.theirBalance = payer.theirBalance := by
    have total := attempt.total
    rw [total_eq, total_eq, mine] at total
    exact (Uint256.eq_iff _ _).mpr (Nat.add_left_cancel total)
  unfold myBalance at mine
  unfold theirBalance at theirs
  rw [role] at mine theirs
  have same : stated.balance0 = payer.balance0 ∧ stated.balance1 = payer.balance1 := by
    cases shape : payer.iAm0
    · simp only [shape] at mine theirs
      exact ⟨theirs, mine⟩
    · simp only [shape] at mine theirs
      exact ⟨mine, theirs⟩
  exact ⟨role.symm.trans mirrors.iAm0, same.1.symm.trans mirrors.balance0,
    same.2.symm.trans mirrors.balance1⟩

theorem Attempt.accepted (attempt : payer.Attempt amount closure stated)
    (sent : updateTx.unsigned = stated.toUpdate) (mirrors : payer.Mirrors payee)
    (accepts : Accepted payee updateTx received) : stated.Mirrors received where
  iAm0 := by rw [attempt.iAm0, mirrors.iAm0, accepts.iAm0]
  balance0 := (congrArg UpdateTx.balance0 sent).symm.trans accepts.balance0.symm
  balance1 := (congrArg UpdateTx.balance1 sent).symm.trans accepts.balance1.symm

/-- An attempt never takes from a payee that mirrors the payer. -/
theorem Attempt.keeps (attempt : payer.Attempt amount closure stated)
    (sent : updateTx.unsigned = stated.toUpdate) (mirrors : payer.Mirrors payee) :
    payee.myBalance.toNat ≤ (updateTx.myBalance payee.iAm0).toNat := by
  have states : updateTx.myBalance payee.iAm0 = stated.theirBalance := by
    have balance0 : updateTx.balance0 = stated.balance0 := congrArg UpdateTx.balance0 sent
    have balance1 : updateTx.balance1 = stated.balance1 := congrArg UpdateTx.balance1 sent
    rw [UpdateTx.myBalance, Channel.theirBalance, balance0, balance1, attempt.iAm0, mirrors.iAm0]
    cases payee.iAm0 <;> rfl
  have taken := attempt.takes
  have total := attempt.total
  rw [total_eq, total_eq] at total
  rw [states, ← mirrors.theirBalance]
  omega

end Copies

end Channel

/-- The payer's poll leaves its channel as it is; it ends, or makes an attempt. -/
structure Poll.Attempts (poll : Poll) (channel : Channel) (amount : Uint256) : Prop where
  entry : poll.entry = some (.opened channel)
  next : (∃ result, poll.next = .resolved result) ∨
    ∃ closure stated updateTx, channel.Attempt amount closure stated ∧
      updateTx.unsigned = stated.toUpdate ∧
      poll.next = .suspended (.peer (.receivePayment updateTx)) closure

section Polls

variable {crypto : Crypto} {theirAddress : Address} {channel stated paid : Channel}
  {amount : Uint256} {closure : Closure} {node : Node} {operation : Operation} {poll : Poll}

theorem Poll.Attempts.failed {fault : Fault} :
    (Poll.fail (some (.opened channel)) fault).Attempts channel amount :=
  ⟨rfl, .inl ⟨_, rfl⟩⟩

theorem Poll.Attempts.sent (attempt : channel.Attempt amount closure stated) :
    (sendPayment crypto (some (.opened channel)) stated stated.toUpdate closure).Attempts channel
      amount :=
  ⟨rfl, .inr ⟨closure, stated, _, attempt, UpdateTx.setSignature_unsigned _ _ _, rfl⟩⟩

theorem poll_makePayment
    (polled : node.poll crypto theirAddress (.start (.makePayment amount)) =
      some (operation, poll))
    (opened : node.entry = some (.opened channel)) :
    operation = .user (.makePayment amount) ∧ poll.Attempts channel amount := by
  obtain ⟨-, rfl, rfl⟩ := poll_start polled
  refine ⟨rfl, ?_⟩
  rw [opened]
  simp only [UserOp.start, makePayment, withCounterparty, checkForCounterparty, okOr]
  cases made : channel.makePayment amount none with
  | error fault => exact .failed
  | ok result =>
      obtain ⟨paid, updateTx⟩ := result
      obtain ⟨pays, rfl⟩ := Channel.makePayment_ok made
      exact .sent (.first pays)

theorem poll_receivePayment {updateTx : UpdateTx}
    (polled : node.poll crypto theirAddress (.request (.receivePayment updateTx)) =
      some (operation, poll))
    (opened : node.entry = some (.opened channel)) :
    (poll.entry = some (.opened channel) ∧
        ∃ result, poll.next = .resolved result ∧ result ≠ .ok (.maybeSeq none)) ∨
      ∃ received, Channel.Accepted channel updateTx received ∧
        poll = .succeed (some (.opened received)) (.maybeSeq none) := by
  obtain ⟨-, -, rfl⟩ := poll_request polled
  rw [opened]
  simp only [Request.start, receivePayment, withCounterparty, checkForCounterparty, okOr]
  cases answered : receiveUpdate crypto theirAddress channel updateTx with
  | error fault =>
      refine .inl ⟨rfl, _, rfl, ?_⟩
      intro same
      cases same
  | ok result =>
      obtain ⟨received, reply⟩ := result
      obtain ⟨-, rfl, rfl⟩ | ⟨rfl, accepts⟩ :=
        Channel.receivePayment_ok (receiveUpdate_ok answered).2
      · refine .inl ⟨rfl, _, rfl, ?_⟩
        intro same
        cases same
      · exact .inr ⟨received, accepts, rfl⟩

theorem Channel.Attempt.declined {result : Result Value}
    (attempt : channel.Attempt amount closure stated)
    (resumed : closure.resume crypto theirAddress (some (.opened channel)) result = some poll)
    (declines : result ≠ .ok (.maybeSeq none)) : poll.Attempts channel amount := by
  cases result with
  | error fault =>
      obtain rfl := Option.some.inj resumed
      exact .failed
  | ok value =>
      cases attempt with
      | first pays =>
          cases value with
          | maybeSeq reply =>
              obtain rfl := Option.some.inj resumed
              cases reply with
              | none => exact absurd rfl declines
              | some currentSeq =>
                  simp only [makePaymentOnReply]
                  cases made : stated.makePayment amount (some currentSeq) with
                  | error fault => exact .failed
                  | ok result =>
                      obtain ⟨again, updateTx⟩ := result
                      obtain ⟨paysAgain, rfl⟩ := Channel.makePayment_ok made
                      exact .sent (.second pays paysAgain)
          | _ => cases resumed
      | second =>
          cases value with
          | maybeSeq reply =>
              obtain rfl := Option.some.inj resumed
              cases reply with
              | none => exact absurd rfl declines
              | some => exact .failed
          | _ => cases resumed

end Polls

namespace Sample

def copies (side : Side) : Channel := ⟨7, 0, 10, 0, 0, decide (side = .a)⟩

def opened : Network where
  node side :=
    ⟨some (.opened (copies side)), none, [.newChannel (proposedChannel (crypto 1) 2 true 10 41)]⟩
  wire _ := .idle
  orphans _ := []
  chain := ⟨[(proposedChannel (crypto 1) 2 true 10 41, 7)], [], [],
    Function.update (fun _ => 0) 7 10⟩

end Sample

namespace Network

/-- The events of payments over a network that loses what it likes. -/
def payment : NetworkEvent → Bool
  | .start _ (.makePayment _) => true
  | .deliver _ => true
  | .reply _ => true
  | .giveUp _ false => true
  | _ => false

/-- Both nodes are at rest with a channel on which they agree. -/
structure Opened (network : Network) (channel : Side → Channel) : Prop where
  quiescent : network.Quiescent
  idle : ∀ side, network.wire side = .idle
  entry : ∀ side, (network.node side).entry = some (.opened (channel side))
  agrees : (channel .a).Agrees (channel .b)
  iAm0 : (channel .a).iAm0 = !(channel .b).iAm0

/-- The peer has accepted a payment of some amount from this side, which is yet to
hear of it. -/
def credited (network : Network) (side : Side) : Bool :=
  match network.wire side, (network.node side).running with
  | .answered (.ok (.maybeSeq none)), some ⟨.user (.makePayment amount), _, _⟩ =>
      decide (amount ≠ 0)
  | _, _ => false

/-- The step lets a payer forget a payment its peer accepted: the reply is lost,
or it answers a second attempt, whose channel is dropped. -/
def forgets (network : Network) : NetworkEvent → Bool
  | .giveUp side _ => network.credited side
  | .reply side =>
      network.credited side &&
        decide ((network.node side).running.map Running.closure = some .retryReply)
  | _ => false

/-- No balance is held for less than its owner holds it, once nothing is in
flight, and no payment on its way is one `Channel::receive_payment` refuses for
reducing the balance of its receiver. -/
structure Live (network : Network) : Prop where
  covered : network.Quiescent → ∀ side mine theirs,
    (network.node side).entry = some (.opened mine) →
    (network.node side.other).entry = some (.opened theirs) →
      theirs.myBalance ≤ mine.theirBalance
  taken : ∀ side updateTx channel, network.wire side = .sent (.receivePayment updateTx) →
    (network.node side.other).entry = some (.opened channel) →
      channel.receivePayment updateTx ≠ .error (.guac (.forbidden "This reduces my balance"))

/-- How far a payment has come: the payer's operation and its wire. -/
inductive Exchange (payer payee : Channel) : Option Running → Wire → Prop
  | rest (mirrors : payer.Mirrors payee) : Exchange payer payee none .idle
  | asked {amount : Uint256} {closure : Closure} {stated : Channel} {updateTx : UpdateTx}
      (attempt : payer.Attempt amount closure stated)
      (sent : updateTx.unsigned = stated.toUpdate) (mirrors : payer.Mirrors payee) :
      Exchange payer payee
        (some ⟨.user (.makePayment amount), .peer (.receivePayment updateTx), closure⟩)
        (.sent (.receivePayment updateTx))
  | declined {amount : Uint256} {call : Call} {closure : Closure} {stated : Channel}
      {result : Result Value} (attempt : payer.Attempt amount closure stated)
      (declines : result ≠ .ok (.maybeSeq none)) (mirrors : payer.Mirrors payee) :
      Exchange payer payee (some ⟨.user (.makePayment amount), call, closure⟩) (.answered result)
  | accepted {amount : Uint256} {call : Call} {closure : Closure} {stated : Channel}
      (attempt : payer.Attempt amount closure stated) (mirrors : stated.Mirrors payee) :
      Exchange payer payee (some ⟨.user (.makePayment amount), call, closure⟩)
        (.answered (.ok (.maybeSeq none)))

/-- One side may be paying; the other is at rest. -/
structure Pays (network : Network) (side : Side) (payer payee : Channel) : Prop where
  mine : (network.node side).entry = some (.opened payer)
  theirs : (network.node side.other).entry = some (.opened payee)
  rest : (network.node side.other).running = none
  idle : network.wire side.other = .idle
  exchange : Exchange payer payee (network.node side).running (network.wire side)

variable {parties : Side → Crypto} {before after network : Network} {event : NetworkEvent}
  {side second : Side} {payer payee : Channel}

theorem Opened.pays {channel : Side → Channel} (opened : network.Opened channel) :
    network.Pays .a (channel .a) (channel .b) where
  mine := opened.entry .a
  theirs := opened.entry .b
  rest := opened.quiescent .b
  idle := opened.idle .b
  exchange := by
    rw [opened.quiescent .a, opened.idle .a]
    exact .rest ⟨opened.iAm0, opened.agrees.balance0, opened.agrees.balance1⟩

/-- Whose wire is in use pays. -/
theorem Pays.busy (pays : network.Pays side payer payee) (busy : network.wire second ≠ .idle) :
    second = side := by
  rcases side.eq_or_eq_other second with same | rfl
  · exact same
  · exact absurd pays.idle busy

theorem Pays.mirrors (pays : network.Pays side payer payee)
    (none : (network.node side).running = none) :
    network.wire side = .idle ∧ payer.Mirrors payee := by
  have exchange := pays.exchange
  rw [none] at exchange
  generalize network.wire side = wire at exchange
  cases exchange with
  | rest mirrors => exact ⟨rfl, mirrors⟩

theorem Pays.swap (pays : network.Pays side payer payee)
    (none : (network.node side).running = none) :
    network.Pays side.other payee payer := by
  obtain ⟨idle, mirrors⟩ := pays.mirrors none
  refine ⟨pays.theirs, ?_, ?_, ?_, ?_⟩
  · rw [Side.other_other]
    exact pays.mine
  · rw [Side.other_other]
    exact none
  · rw [Side.other_other]
    exact idle
  · rw [pays.rest, pays.idle]
    exact .rest mirrors.symm

theorem Pays.exists_pays (pays : network.Pays side payer payee) (quiescent : network.Quiescent)
    (second : Side) : ∃ payer payee, network.Pays second payer payee := by
  rcases side.eq_or_eq_other second with rfl | rfl
  · exact ⟨payer, payee, pays⟩
  · exact ⟨payee, payer, pays.swap (quiescent side)⟩

theorem Pays.live (pays : network.Pays side payer payee) : network.Live where
  covered := by
    intro quiescent second mine theirs opened others
    obtain ⟨_, _, turned⟩ := pays.exists_pays quiescent second
    cases turned.mine.symm.trans opened
    cases turned.theirs.symm.trans others
    obtain ⟨-, mirrors⟩ := turned.mirrors (quiescent second)
    exact Nat.le_of_eq (congrArg Uint256.toNat mirrors.theirBalance.symm)
  taken := by
    intro second updateTx channel sent opened refused
    obtain rfl := pays.busy (by rw [sent]; exact nofun)
    cases pays.theirs.symm.trans opened
    have exchange := pays.exchange
    rw [sent] at exchange
    generalize (network.node second).running = running at exchange
    cases exchange with
    | asked attempt states mirrors =>
        have keeps := attempt.keeps states mirrors
        exact absurd (Channel.receivePayment_reduces refused) (Nat.not_lt.mpr keeps)

theorem Pays.own {channel : Channel} {operation : Operation} {poll : Poll}
    (pays : network.Pays side payer payee) (entry : poll.entry = some (.opened channel))
    (exchange : Exchange channel payee (poll.running operation) poll.next.wire) :
    (network.own side operation poll).Pays side channel payee := by
  refine ⟨?_, ?_, ?_, ?_, ?_⟩
  · rw [own_node]
    exact entry
  · rw [own_node_other]
    exact pays.theirs
  · rw [own_node_other]
    exact pays.rest
  · rw [own_wire_other]
    exact pays.idle
  · rw [own_node, own_wire]
    exact exchange

/-- A poll of the payer that ends or makes an attempt. -/
theorem Pays.attempts {amount : Uint256} {poll : Poll} (pays : network.Pays side payer payee)
    (mirrors : payer.Mirrors payee) (attempts : poll.Attempts payer amount) :
    (network.own side (.user (.makePayment amount)) poll).Pays side payer payee := by
  refine pays.own attempts.entry ?_
  rcases attempts.next with ⟨result, next⟩ | ⟨_, _, _, attempt, sent, next⟩
  · rw [Poll.running, next]
    exact .rest mirrors
  · rw [Poll.running, next]
    exact .asked attempt sent mirrors

theorem Pays.heard (pays : network.Pays side payer payee)
    (nothing : network.credited side = false) : payer.Mirrors payee := by
  have exchange := pays.exchange
  rw [credited] at nothing
  generalize (network.node side).running = running at exchange nothing
  generalize network.wire side = wire at exchange nothing
  cases exchange with
  | rest mirrors | asked _ _ mirrors | declined _ _ mirrors => exact mirrors
  | accepted attempt mirrors =>
      obtain rfl := not_not.mp (of_decide_eq_false nothing)
      exact attempt.free mirrors

/-- A payer that has yet to hear of a payment holds more for itself than the payee holds for
it. -/
theorem Pays.short (pays : network.Pays side payer payee)
    (credited : network.credited side = true) : ¬ payer.myBalance ≤ payee.theirBalance := by
  have exchange := pays.exchange
  rw [Network.credited] at credited
  generalize (network.node side).running = running at exchange credited
  generalize network.wire side = wire at exchange credited
  cases exchange with
  | rest | asked => cases credited
  | declined _ declines =>
      split at credited
      next answered _ => exact absurd (Wire.answered.inj answered) declines
      next => cases credited
  | accepted attempt mirrors =>
      have some : _ ≠ (0 : Uint256) := of_decide_eq_true credited
      rw [ne_eq, Uint256.eq_iff, Uint256.toNat_zero] at some
      have takes := attempt.takes
      rw [mirrors.symm.theirBalance, Uint256.le_def]
      omega

theorem Pays.replied {result : Result Value} {operation : Operation} {poll : Poll}
    (pays : network.Pays side payer payee) (answered : network.wire side = .answered result)
    (polled : network.poll parties side (.resume result) = some (operation, poll))
    (remembers : network.forgets (.reply side) = false) :
    ∃ channel, (network.own side operation poll).Pays side channel payee := by
  obtain ⟨running, holds, rfl, resumed⟩ := poll_resume polled
  rw [pays.mine] at resumed
  have exchange := pays.exchange
  rw [answered, holds] at exchange
  cases exchange with
  | declined attempt declines mirrors =>
      exact ⟨payer, pays.attempts mirrors (attempt.declined resumed declines)⟩
  | accepted attempt mirrors =>
      cases attempt with
      | first =>
          obtain rfl := Option.some.inj resumed
          exact ⟨_, pays.own rfl (.rest mirrors)⟩
      | second =>
          obtain rfl := Option.some.inj resumed
          have nothing : network.credited side = false := by
            simpa [forgets, holds] using remembers
          exact ⟨payer, pays.own rfl (.rest (pays.heard nothing))⟩

theorem Pays.delivered {request : Request} {operation : Operation} {poll : Poll}
    (pays : network.Pays side.other payer payee)
    (sent : network.wire side.other = .sent request)
    (polled : network.poll parties side (.request request) = some (operation, poll)) :
    ∃ channel,
      (network.serve side operation poll poll.next.outcome).Pays side.other payer channel := by
  obtain ⟨mine, theirs, rest, idle, exchange⟩ := pays
  rw [Side.other_other] at theirs rest idle
  have serves : ∀ channel, poll.entry = some (.opened channel) →
      poll.running operation = none →
      Exchange payer channel (network.node side.other).running poll.next.outcome →
        (network.serve side operation poll poll.next.outcome).Pays side.other payer channel := by
    intro channel entry ended exchange
    refine ⟨?_, ?_, ?_, ?_, ?_⟩
    · rw [serve_node_other]
      exact mine
    · rw [Side.other_other, serve_node]
      exact entry
    · rw [Side.other_other, serve_node]
      exact ended
    · rw [Side.other_other, serve_wire]
      exact idle
    · rw [serve_node_other, serve_wire_other]
      exact exchange
  rw [sent] at exchange
  generalize (network.node side.other).running = running at exchange serves
  cases exchange with
  | asked attempt states mirrors =>
      rcases poll_receivePayment polled theirs with
        ⟨entry, result, next, declines⟩ | ⟨received, accepts, rfl⟩
      · refine ⟨payee, serves payee entry (by rw [Poll.running, next]) ?_⟩
        rw [next]
        refine .declined attempt ?_ mirrors
        cases result with
        | error =>
            intro same
            cases same
        | ok => exact declines
      · exact ⟨received, serves received rfl rfl
          (.accepted attempt (attempt.accepted states mirrors accepts))⟩

/-- Payments that are not forgotten keep the copies in step. -/
theorem Pays.step (pays : before.Pays side payer payee) (payments : payment event = true)
    (starts : before.StartsAtRest event) (remembers : before.forgets event = false)
    (stepped : before.step parties event = some after) :
    ∃ side payer payee, after.Pays side payer payee := by
  cases change_of_step stepped with
  | @started second op operation poll polled =>
      cases op with
      | makePayment amount =>
          obtain ⟨payer, payee, turned⟩ := pays.exists_pays starts second
          obtain ⟨rfl, attempts⟩ := poll_makePayment polled turned.mine
          exact ⟨second, payer, payee,
            turned.attempts (turned.mirrors (starts second)).2 attempts⟩
      | _ => cases payments
  | @delivered second _ _ _ sent polled =>
      obtain rfl := pays.busy (by rw [sent]; exact nofun)
      rw [← Side.other_other second] at pays sent
      obtain ⟨channel, served⟩ := pays.delivered sent polled
      exact ⟨_, _, _, served⟩
  | @replied second _ _ _ answered polled =>
      obtain rfl := pays.busy (by rw [answered]; exact nofun)
      obtain ⟨channel, heard⟩ := pays.replied answered polled remembers
      exact ⟨_, _, _, heard⟩
  | @gaveUp second _ _ _ waiting polled =>
      obtain rfl := pays.busy waiting
      obtain ⟨running, holds, rfl, resumed⟩ := poll_resume polled
      rw [pays.mine] at resumed
      obtain rfl := Option.some.inj resumed
      have ended : ∀ fault, (before.own second running.operation
          (.fail (some (.opened payer)) fault)).Pays second payer payee :=
        fun _ => pays.own rfl (.rest (pays.heard remembers))
      obtain ⟨mine, theirs, rest, idle, exchange⟩ := ended _
      exact ⟨second, payer, payee, mine, theirs, rest, idle, exchange⟩
  | chainAnswered | lookedUp | orphanDelivered | opened | reDrawn => cases payments

theorem Pays.uncovered {operation : Operation} {poll : Poll} {result : Result Value}
    (pays : network.Pays side payer payee) (short : ¬ payer.myBalance ≤ payee.theirBalance)
    (entry : poll.entry = some (.opened payer)) (next : poll.next = .resolved result) :
    ¬ (network.own side operation poll).Live := by
  intro live
  have quiescent : (network.own side operation poll).Quiescent := by
    refine (side.forall_iff).mpr ⟨?_, ?_⟩
    · rw [own_node]
      show poll.running operation = none
      rw [Poll.running, next]
    · rw [own_node_other]
      exact pays.rest
  refine short (live.covered quiescent side.other payee payer ?_ ?_)
  · rw [own_node_other]
    exact pays.theirs
  · rw [Side.other_other, own_node]
    exact entry

/-- A payment that is forgotten leaves the payee's copy short. -/
theorem Pays.forgotten (pays : before.Pays side payer payee)
    (forgets : before.forgets event = true)
    (stepped : before.step parties event = some after) : ¬ after.Live := by
  cases change_of_step stepped with
  | @replied second result _ _ answered polled =>
      obtain rfl := pays.busy (by rw [answered]; exact nofun)
      obtain ⟨running, holds, rfl, resumed⟩ := poll_resume polled
      obtain ⟨credited, retries⟩ := Bool.and_eq_true_iff.mp forgets
      rw [holds] at retries
      have retries : running.closure = .retryReply :=
        Option.some.inj (of_decide_eq_true retries)
      have accepted : result = .ok (.maybeSeq none) := by
        rw [Network.credited, answered] at credited
        split at credited
        next same _ => exact Wire.answered.inj same
        next => cases credited
      rw [retries, accepted, pays.mine] at resumed
      obtain rfl := Option.some.inj resumed
      exact pays.uncovered (pays.short credited) rfl rfl
  | @gaveUp second _ _ _ waiting polled =>
      obtain rfl := pays.busy waiting
      obtain ⟨running, holds, rfl, resumed⟩ := poll_resume polled
      rw [pays.mine] at resumed
      obtain rfl := Option.some.inj resumed
      have ended : ∀ fault, ¬ (before.own second running.operation
          (.fail (some (.opened payer)) fault)).Live :=
        fun _ => pays.uncovered (pays.short forgets) rfl rfl
      exact fun live => ended _ ⟨live.covered, live.taken⟩
  | _ => cases forgets

section Runs

variable {taken : List (Transition Network NetworkEvent)} {start : Network}
  {channel : Side → Channel}

theorem pays_of_run (run : (machine parties).Run start taken network)
    (opened : start.Opened channel)
    (payments : ∀ transition ∈ taken, payment transition.event = true)
    (starts : ∀ transition ∈ taken, transition.before.StartsAtRest transition.event)
    (remembers : ∀ transition ∈ taken, transition.before.forgets transition.event = false) :
    ∃ side payer payee, network.Pays side payer payee :=
  run.invariant_of_guard (fun network => ∃ side payer payee, network.Pays side payer payee)
    (fun before event => payment event = true ∧ before.StartsAtRest event ∧
      before.forgets event = false) ⟨_, _, _, opened.pays⟩
    (fun _ _ _ ⟨_, _, _, pays⟩ guarded stepped =>
      pays.step guarded.1 guarded.2.1 guarded.2.2 stepped)
    fun transition member =>
      ⟨payments transition member, starts transition member, remembers transition member⟩

/-- Two nodes that agree on a channel pay each other, one payment at a time, over a
network that may lose every request and every reply: all along the run each copy
covers the balance it is a copy of, and no payment is refused for reducing its
receiver's balance, if and only if no accepted payment is forgotten. -/
theorem liveness_under_loss_iff (opened : start.Opened channel)
    (run : (machine parties).Run start taken network)
    (payments : ∀ transition ∈ taken, payment transition.event = true)
    (starts : ∀ transition ∈ taken, transition.before.StartsAtRest transition.event) :
    (∀ transition ∈ taken, transition.after.Live) ↔
      ∀ transition ∈ taken, transition.before.forgets transition.event = false := by
  -- the part of the run before each transition forgets nothing on either side
  induction run with
  | nil => simp
  | @snoc taken state next event earlier stepped inductionHypothesis =>
      simp only [List.forall_mem_append, List.forall_mem_singleton] at payments starts ⊢
      rw [inductionHypothesis payments.1 starts.1]
      refine and_congr_right fun remembers => ?_
      obtain ⟨side, payer, payee, pays⟩ :=
        pays_of_run earlier opened payments.1 starts.1 remembers
      constructor
      · intro live
        rw [Bool.eq_false_iff]
        exact fun forgets => pays.forgotten forgets stepped live
      · intro remembers
        obtain ⟨_, _, _, keeps⟩ := pays.step payments.2 starts.2 remembers stepped
        exact keeps.live

end Runs

theorem opened_sample : Sample.opened.Opened Sample.copies :=
  ⟨fun _ => rfl, fun _ => rfl, fun _ => rfl, ⟨rfl, rfl, rfl, rfl⟩, rfl⟩

/-- A request is lost, and payments go both ways after it. -/
theorem liveness_under_loss_iff_lost_request :
    let events : List NetworkEvent :=
      [.start .a (.makePayment 5), .giveUp .a false, .start .a (.makePayment 3), .deliver .a,
        .reply .a, .start .b (.makePayment 1), .deliver .b, .reply .b]
    ∃ network ∈ (machine Sample.parties).replay Sample.opened events,
      (network.node .a).openChannel.map Channel.sequenceNumber = some 2 ∧
        ((∀ transition ∈ (machine Sample.parties).trace Sample.opened events,
            transition.after.Live) ↔
          ∀ transition ∈ (machine Sample.parties).trace Sample.opened events,
            transition.before.forgets transition.event = false) := by
  intro events
  obtain ⟨network, reached, counted⟩ :
      ∃ network ∈ (machine Sample.parties).replay Sample.opened events,
        (network.node .a).openChannel.map Channel.sequenceNumber = some 2 := by
    decide +kernel
  exact ⟨network, reached, counted, liveness_under_loss_iff opened_sample
    (Machine.run_of_replay reached) (by decide +kernel) (by decide +kernel)⟩

/-- Node 1 pays 5, node 2 accepts, and the reply is lost: node 1 still holds 10 for
itself, and node 2 holds 5 for it. -/
theorem lost_reply_uncovers :
    ∃ taken network, (machine Sample.parties).Run Sample.opened taken network ∧
      (∀ transition ∈ taken, payment transition.event = true) ∧
      (∀ transition ∈ taken, transition.before.StartsAtRest transition.event) ∧
      network.Quiescent ∧ ¬ network.Live := by
  obtain ⟨network, reached, opened, others, quiescent⟩ :
      ∃ network ∈ (machine Sample.parties).replay Sample.opened
          [.start .a (.makePayment 5), .deliver .a, .giveUp .a false],
        (network.node .a).entry = some (.opened ⟨7, 0, 10, 0, 0, true⟩) ∧
          (network.node .b).entry = some (.opened ⟨7, 1, 5, 5, 5, false⟩) ∧
          network.Quiescent := by
    decide +kernel
  refine ⟨_, network, Machine.run_of_replay reached, by decide +kernel, by decide +kernel,
    quiescent, ?_⟩
  intro live
  exact absurd (live.covered quiescent .b _ _ others opened) (by decide)

end Network

end Guac
