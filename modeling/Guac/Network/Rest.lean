import Guac.Foundation.Budget
import Guac.Network.Agreement
import Guac.Node.Cost

/-!
Owns how the network comes to rest. A call of a user brings a fixed amount of work, and
every other event does some of it: an answer, a delivery, a poll of a handler, a timeout or
a mined transaction. No schedule of losses, delays and reordering adds to it, and as long as
anything is in flight some event is possible.

It does not own how the calls end: two that cross end by timeouts, and a call of the chain
may end by an error where the client would go on asking.
-/

set_option autoImplicit false

namespace Guac

open Foundation

/-! ### The work there is -/

/-- Sending a request costs what handling it does, and a transaction is mined in one step. -/
def Prices.network : Prices where
  proposeChannel := 2
  proposeReDraw := 1
  notifyChannelOpened := 2
  notifyReDraw := 2
  receivePayment := 1
  mining := 1

/-- The steps a request can cause at the node that receives it. -/
def Request.work (request : Request) : Nat := request.cost .network

/-- The steps that can follow a poll. -/
def Poll.work (poll : Poll) : Nat := poll.cost .network

/-- The steps the operation that holds an entry can still cause, without those of the
request it waits for. -/
def Node.work (node : Node) : Nat := node.cost .network

def Deal.isReDraw : Deal → Bool
  | .opening _ => false
  | .reDraw _ => true

theorem price_eq_work (request : Request) : request.price .network = request.work := by
  cases request <;> rfl

theorem countP_submission (next : Next) : next.submission.countP Deal.isReDraw = next.reDraws := by
  cases next with
  | resolved => rfl
  | suspended call closure =>
      cases call with
      | peer => rfl
      | chain call => cases call <;> rfl

theorem work_eq_cost (poll : Poll) :
    poll.work = poll.next.cost .network + (poll.next.submission.countP Deal.isReDraw +
      poll.signed.countP SignedTx.isOpening) := by
  rw [countP_submission]
  exact congrArg (poll.next.cost .network + ·) (Nat.one_mul _)

/-! ### What a step of the network does of it -/

/-- The work of the request on a wire; a request that was taken up has become work of the
node that serves it. -/
def Wire.work (wire : Wire) : Nat := (wire.request.map Request.work).getD 0

/-- Whether the contract can still open a channel by a transaction. -/
def Chain.unopened (chain : Chain) : SignedTx → Bool
  | .newChannel tx => decide (tx ∉ chain.opened.map Prod.fst)
  | .reDraw _ => false
  | .update _ => false

/-- The work an event brings. -/
def NetworkEvent.brings : NetworkEvent → Nat
  | .start _ op => op.cost .network
  | _ => 0

@[simp] theorem work_of_served (wire : Wire) (next : Next) :
    (wire.served next).work = wire.work := by
  cases wire <;> cases next <;> rfl

@[simp] theorem work_of_outcome (next : Next) : next.outcome.work = 0 := by
  cases next <;> rfl

theorem work_of_own (operation : Operation) (node : Node) (poll : Poll) :
    (node.after operation poll).work + poll.next.wire.work = poll.next.cost .network := by
  unfold Node.work Node.cost Node.after Poll.running
  cases poll.next with
  | resolved => rfl
  | suspended call closure =>
      cases call with
      | peer request =>
          rw [Next.cost, Call.price, price_eq_work]
          exact Nat.add_comm _ _
      | chain => exact (Nat.zero_add _).symm

theorem work_of_after (operation : Operation) (node : Node) (poll : Poll) :
    (node.after operation poll).work ≤ poll.next.cost .network :=
  Nat.le.intro (work_of_own operation node poll)

namespace Sample

def crossing : List NetworkEvent :=
  [.start .a (.fillChannel 5), .start .b (.fillChannel 7), .answerChain .a (.ok (.block 1)),
    .answerChain .b (.ok (.block 1))]

end Sample

namespace Network

/-- The work at a side: its operation, its request in flight and those it abandoned. -/
def sideWork (network : Network) (side : Side) : Nat :=
  (network.node side).work + (network.wire side).work +
    ((network.orphans side).map Request.work).sum

/-- The transactions the contract can still mine. -/
def chainWork (network : Network) : Nat :=
  network.chain.submitted.countP Deal.isReDraw +
    (network.node .a).signed.countP network.chain.unopened

def work (network : Network) : Nat :=
  network.sideWork .a + network.sideWork .b + network.chainWork

variable {parties : Side → Crypto} {network after : Network} {side : Side}
  {operation : Operation} {poll : Poll} {wire : Wire}

theorem work_eq (network : Network) (side : Side) :
    network.work = network.sideWork side + network.sideWork side.other + network.chainWork := by
  cases side with
  | a => rfl
  | b =>
      rw [work, Nat.add_comm (network.sideWork .a)]
      rfl

theorem unopened_isOpening (chain : Chain) (tx : SignedTx) (unopened : chain.unopened tx = true) :
    tx.isOpening = true := by
  cases tx with
  | newChannel => rfl
  | reDraw | update => cases unopened

/-- What a node signs lets the contract open at most that many channels. -/
theorem signed_after (second : Side) :
    (Function.update network.node side ((network.node side).after operation poll)
        second).signed.countP network.chain.unopened ≤
      (network.node second).signed.countP network.chain.unopened +
        poll.signed.countP SignedTx.isOpening := by
  rcases eq_or_ne second side with rfl | different
  · rw [Function.update_self, Node.after, List.countP_append]
    exact Nat.add_le_add_left
      (List.countP_mono_left fun tx _ => unopened_isOpening network.chain tx) _
  · rw [Function.update_of_ne different]
    exact Nat.le_add_right _ _

theorem own_work :
    (network.own side operation poll).work + (network.node side).work +
        (network.wire side).work ≤ network.work + poll.work := by
  have chain : (network.own side operation poll).chainWork ≤ network.chainWork +
      poll.next.submission.countP Deal.isReDraw + poll.signed.countP SignedTx.isOpening := by
    have signed := @signed_after network side operation poll .a
    unfold chainWork own
    simp only [List.countP_append]
    change _ + List.countP network.chain.unopened _ ≤ _
    omega
  have held := work_of_own operation (network.node side) poll
  rw [work_eq _ side, work_eq network side]
  unfold sideWork
  rw [own_node, own_node_other, own_wire, own_wire_other]
  change _ + _ + ((network.orphans side).map Request.work).sum + (_ + _ +
    ((network.orphans side.other).map Request.work).sum) + _ + _ + _ ≤ _
  rw [work_eq_cost]
  omega

theorem serve_work :
    (network.serve side operation poll wire).work + (network.node side).work +
        (network.wire side.other).work ≤ network.work + poll.work + wire.work := by
  have chain : (network.serve side operation poll wire).chainWork ≤ network.chainWork +
      poll.signed.countP SignedTx.isOpening := by
    have signed := @signed_after network side operation poll .a
    unfold chainWork serve
    change _ + List.countP network.chain.unopened _ ≤ _
    simp only
    omega
  have held := work_of_after operation (network.node side) poll
  rw [work_eq _ side, work_eq network side]
  unfold sideWork
  rw [serve_node, serve_node_other, serve_wire, serve_wire_other]
  change _ + _ + ((network.orphans side).map Request.work).sum + (_ + _ +
    ((network.orphans side.other).map Request.work).sum) + _ + _ + _ ≤ _
  rw [work_eq_cost]
  omega

theorem orphans_work {orphans : List Request} {limit : Nat}
    (enough : network.work + (orphans.map Request.work).sum + 1 ≤
      limit + ((network.orphans side).map Request.work).sum) :
    { network with orphans := Function.update network.orphans side orphans : Network }.work + 1 ≤
      limit := by
  rw [work_eq network side] at enough
  rw [work_eq _ side]
  unfold sideWork chainWork at enough ⊢
  simp only [Function.update_self, Function.update_of_ne side.other_ne]
  omega

theorem opening_work {tx : NewChannelTx} {channelId : Bytes32}
    (signed : network.bothSigned (.newChannel tx)) (once : tx ∉ network.chain.opened.map Prod.fst) :
    (network.mineNewChannel tx channelId).work + 1 ≤ network.work := by
  have fewer (own : SignedTx)
      (unopened : (network.mineNewChannel tx channelId).chain.unopened own = true) :
      network.chain.unopened own = true := by
    cases own with
    | newChannel other =>
        have absent := of_decide_eq_true unopened
        unfold mineNewChannel at absent
        simp only [List.map_append, List.mem_append, not_or] at absent
        exact decide_eq_true absent.1
    | reDraw | update => cases unopened
  have used : (network.mineNewChannel tx channelId).chain.unopened (.newChannel tx) = false := by
    simp [Chain.unopened, mineNewChannel]
  have usable : network.chain.unopened (.newChannel tx) = true := decide_eq_true once
  have openings : (network.node .a).signed.countP
      (network.mineNewChannel tx channelId).chain.unopened + 1 ≤
        (network.node .a).signed.countP network.chain.unopened := by
    obtain ⟨front, rest, split⟩ := List.append_of_mem signed.1
    rw [split, List.countP_append, List.countP_append, List.countP_cons_of_pos usable,
      List.countP_cons_of_neg (by simp [used])]
    have before := List.countP_mono_left fun own (_ : own ∈ front) => fewer own
    have behind := List.countP_mono_left fun own (_ : own ∈ rest) => fewer own
    omega
  have reDraws : (network.chain.submitted.erase (.opening tx)).countP Deal.isReDraw ≤
      network.chain.submitted.countP Deal.isReDraw := List.erase_sublist.countP_le
  change network.sideWork .a + network.sideWork .b + ((network.chain.submitted.erase
    (.opening tx)).countP Deal.isReDraw + (network.node .a).signed.countP
      (network.mineNewChannel tx channelId).chain.unopened) + 1 ≤ network.sideWork .a +
        network.sideWork .b + (network.chain.submitted.countP Deal.isReDraw +
          (network.node .a).signed.countP network.chain.unopened)
  omega

theorem reDraw_work {tx : ReDrawTx} (submitted : .reDraw tx ∈ network.chain.submitted) :
    (network.mineReDraw tx).work + 1 ≤ network.work := by
  have reDraws : (network.chain.submitted.erase (.reDraw tx)).countP Deal.isReDraw + 1 =
      network.chain.submitted.countP Deal.isReDraw := by
    rw [(List.perm_cons_erase submitted).countP_eq, List.countP_cons_of_pos rfl]
  change network.sideWork .a + network.sideWork .b + ((network.chain.submitted.erase
    (.reDraw tx)).countP Deal.isReDraw + (network.node .a).signed.countP
      network.chain.unopened) + 1 ≤ network.sideWork .a + network.sideWork .b +
        (network.chain.submitted.countP Deal.isReDraw +
          (network.node .a).signed.countP network.chain.unopened)
  omega

/-- Every step of the network does one step of the work there is. -/
theorem work_of_step {event : NetworkEvent} (stepped : network.step parties event = some after) :
    after.work + 1 ≤ network.work + event.brings := by
  cases change_of_step stepped with
  | @started side op operation poll polled =>
      have paid : poll.work + 1 ≤ (network.node side).work + op.cost .network :=
        cost_of_poll polled
      have done := @own_work network side operation poll
      change _ ≤ network.work + op.cost .network
      omega
  | @chainAnswered side answer op call closure operation poll holds answers polled =>
      have paid : poll.work + 1 ≤ (network.node side).work := cost_of_poll polled
      have done := @own_work network side operation poll
      change _ ≤ network.work
      omega
  | @lookedUp side answer request call closure operation poll holds answers polled =>
      have paid : poll.work + 1 ≤ (network.node side).work := cost_of_poll polled
      have done := @serve_work network side operation poll
        ((network.wire side.other).served poll.next)
      rw [work_of_served] at done
      change _ ≤ network.work
      omega
  | @delivered side request operation poll sent polled =>
      have paid : poll.work + 1 ≤ (network.node side.other).work + request.work :=
        cost_of_poll polled
      have done := @serve_work network side.other operation poll poll.next.outcome
      have asked : request.work = (network.wire side).work := by
        rw [sent]
        rfl
      rw [work_of_outcome, Side.other_other] at done
      change _ ≤ network.work
      omega
  | @orphanDelivered side index request operation poll found polled =>
      have paid : poll.work + 1 ≤ (network.node side.other).work + request.work :=
        cost_of_poll polled
      have done := @serve_work network side.other operation poll (network.wire side)
      rw [Side.other_other] at done
      have taken : (((network.orphans side).eraseIdx index).map Request.work).sum + request.work =
          ((network.orphans side).map Request.work).sum := by
        obtain ⟨bound, rfl⟩ := List.getElem?_eq_some_iff.mp found
        rw [← ((List.getElem_cons_eraseIdx_perm bound).map Request.work).sum_eq, List.map_cons,
          List.sum_cons, Nat.add_comm]
      refine @orphans_work (network.serve side.other operation poll (network.wire side)) side _ _ ?_
      change _ ≤ network.work + ((network.orphans side).map Request.work).sum
      omega
  | @replied side result operation poll answered polled =>
      have paid : poll.work + 1 ≤ (network.node side).work := cost_of_poll polled
      have done := @own_work network side operation poll
      change _ ≤ network.work
      omega
  | @gaveUp side arrives operation poll waiting polled =>
      have paid : poll.work + 1 ≤ (network.node side).work := cost_of_poll polled
      have done := @own_work network side operation poll
      have abandoned : ((if arrives then (network.wire side).request.toList else []).map
          Request.work).sum ≤ (network.wire side).work := by
        unfold Wire.work
        cases arrives <;> cases (network.wire side).request <;> simp
      refine @orphans_work (network.own side operation poll) side _ _ ?_
      change _ ≤ network.work + ((network.orphans side).map Request.work).sum
      rw [List.map_append, List.sum_append]
      omega
  | opened signed once => exact opening_work signed once
  | reDrawn submitted => exact reDraw_work submitted

/-! ### Rest -/

/-- Nothing runs and nothing is in flight. -/
structure AtRest (network : Network) : Prop where
  quiescent : network.Quiescent
  wires : ∀ side, network.wire side = .idle
  orphans : ∀ side, network.orphans side = []

theorem Sound.answerable (sound : Sound parties network) {running : Running}
    (holds : (network.node side).running = some running) :
    ∃ event, event.brings = 0 ∧ (network.step parties event).isSome := by
  obtain ⟨operation, call, closure⟩ := running
  have polled : network.poll parties side (.resume (.error (.failure "timeout"))) =
      some (operation, .fail (network.node side).entry (.failure "timeout")) := resume_error holds
  cases call with
  | peer request =>
      have waiting : network.wire side ≠ .idle := by
        intro idle
        have wire := sound.wires side
        rw [idle, holds] at wire
        cases wire with
        | idle chainCalls =>
            obtain ⟨_, same⟩ := chainCalls _ rfl
            cases same
      refine ⟨.giveUp side false, rfl, ?_⟩
      cases message : network.wire side with
      | idle => exact absurd message waiting
      | sent | serving | answered =>
          simp only [Network.step, message, polled, Option.map_some, Option.isSome_some]
  | chain call =>
      have answers : network.chain.mayAnswer call (.error (.failure "timeout")) = true := by
        cases call <;> rfl
      cases operation with
      | user op | handler request =>
          refine ⟨.answerChain side (.error (.failure "timeout")), rfl, ?_⟩
          simp only [Network.step, holds, answers, if_true, polled, Option.map_some,
            Option.isSome_some]

/-- As long as anything is in flight, some event is possible that brings no work. -/
theorem Sound.goes_on (sound : Sound parties network) (going : ¬ network.AtRest) :
    ∃ event, event.brings = 0 ∧ (network.step parties event).isSome := by
  by_cases quiescent : network.Quiescent
  · have wires := sound.idle_at_rest quiescent
    obtain ⟨side, abandoned⟩ : ∃ side, network.orphans side ≠ [] := by
      by_contra none
      push Not at none
      exact going ⟨quiescent, wires, none⟩
    obtain ⟨request, rest, orphans⟩ := List.exists_cons_of_ne_nil abandoned
    refine ⟨.deliverOrphan side 0, rfl, ?_⟩
    have idle := quiescent side.other
    simp only [Network.step, orphans, List.getElem?_cons_zero, Network.poll, Node.poll, idle,
      Option.map_some, Option.isSome_some]
  · obtain ⟨side, busy⟩ := not_forall.mp quiescent
    obtain ⟨running, holds⟩ := Option.ne_none_iff_exists'.mp busy
    exact sound.answerable holds

theorem budget : (machine parties).Budget (Sound parties) work NetworkEvent.brings where
  kept sound stepped := sound.step stepped
  pays _ stepped := work_of_step stepped

/-- The network can always be brought to rest: after every run no more events are possible
without a new call than its calls brought and have not been used up, whatever is lost,
delayed or reordered; as long as anything is in flight some event is possible; and some
continuation without a new call leaves nothing in flight. -/
theorem comes_to_rest {events : List NetworkEvent}
    (replayed : (machine parties).replay fresh events = some network) :
    events.length + network.work ≤ (events.map NetworkEvent.brings).sum ∧
      (network.AtRest ∨
        ∃ event, event.brings = 0 ∧ (network.step parties event).isSome) ∧
      ∃ rest final, (∀ event ∈ rest, event.brings = 0) ∧
        (machine parties).replay network rest = some final ∧ final.AtRest := by
  obtain ⟨sound, length⟩ := budget.replayed sound_fresh replayed
  have empty : fresh.work = 0 := rfl
  refine ⟨by omega, ?_, ?_⟩
  · exact or_iff_not_imp_left.mpr sound.goes_on
  · exact budget.reaches_rest (fun _ => Sound.goes_on) sound

/-- Both nodes hold an entry that the other one's proposal waits for, and come to rest. -/
theorem comes_to_rest_crossing :
    ∃ network ∈ (machine Sample.parties).replay fresh Sample.crossing,
      (∀ side, (network.node side).running.isSome) ∧ Sample.crossing.length + network.work ≤ 20 ∧
        ∃ rest final, (∀ event ∈ rest, event.brings = 0) ∧
          (machine Sample.parties).replay network rest = some final ∧ final.AtRest := by
  obtain ⟨network, reached, first, second⟩ :
      ∃ network ∈ (machine Sample.parties).replay fresh Sample.crossing,
        (network.node .a).running.isSome ∧ (network.node .b).running.isSome := by
    decide +kernel
  obtain ⟨bounded, -, ends⟩ := comes_to_rest reached
  exact ⟨network, reached, (Side.forall_iff .a).mpr ⟨first, second⟩, bounded, ends⟩

end Network

end Guac
