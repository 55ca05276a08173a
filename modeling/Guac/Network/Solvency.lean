import Mathlib.Data.List.Perm.Basic
import Guac.Network.Chained
import Guac.Network.Turn

/-!
Owns the solvency of the network: the two nodes, what is on its way between
them and the contract carry out a handover of the channel's total, step by step,
so a node whose entry is `Open` holds what the contract has locked.
-/

set_option autoImplicit false

namespace Guac

open Foundation

/-- The consent a wire brings to an operation. -/
def Wire.consent (wire : Wire) (mine : Option Running) : Option Deal :=
  match wire with
  | .answered (.ok (.signature _)) => mine.bind fun running => running.closure.asks
  | _ => none

/-- A wire that brings the acknowledgement of a notice. -/
def Wire.acknowledges (wire : Wire) (mine : Option Running) : Prop :=
  match wire with
  | .answered (.ok .unit) => mine.any (fun running => running.closure.notified) = true
  | _ => False

/-- What the contract has locked in the channel, once there is one. -/
def Chain.ledger (chain : Chain) : Nat :=
  match chain.opened with
  | [] => 0
  | opening :: _ => chain.locked opening.2

theorem Chain.ledger_eq {chain : Chain} {opening : NewChannelTx × Bytes32}
    (single : chain.opened.length ≤ 1) (opened : opening ∈ chain.opened) :
    chain.ledger = chain.locked opening.2 := by
  unfold ledger
  match shape : chain.opened with
  | [] => simp [shape] at opened
  | [only] =>
      rw [shape, List.mem_singleton] at opened
      rw [opened]
  | _ :: _ :: _ => simp [shape] at single

/-- The notices an input delivers. -/
def Input.notices : Input → Nat
  | .request received => if received.notifies then 1 else 0
  | _ => 0

theorem wire_brings_nothing {next : Next} {mine : Option Running} :
    next.wire.consent mine = none ∧ ¬ next.wire.acknowledges mine := by
  cases next with
  | resolved => exact ⟨rfl, id⟩
  | suspended call =>
      cases call with
      | peer | chain => exact ⟨rfl, id⟩

theorem Quiet.brings_nothing {request : Request} {poll : Poll} {mine : Option Running}
    (quiet : Quiet (.handler request) poll) :
    poll.next.outcome.consent mine = none ∧ ¬ poll.next.outcome.acknowledges mine := by
  have reply := quiet.reply
  cases shape : poll.next with
  | suspended => exact ⟨rfl, id⟩
  | resolved result =>
      cases result with
      | error => exact ⟨rfl, id⟩
      | ok value =>
          rcases reply value shape with ⟨_, impossible⟩ | ⟨_, rfl⟩
          · cases impossible
          · exact ⟨rfl, id⟩

theorem outcome_silent {next : Next} : next.outcome.notices = 0 := by
  cases next <;> rfl

theorem Wire.notices_le_one (wire : Wire) : wire.notices ≤ 1 := by
  cases wire with
  | sent request =>
      rw [Wire.notices]
      split <;> omega
  | _ => exact Nat.zero_le 1

theorem Wire.orphaned_notices (wire : Wire) (arrives : Bool) :
    (if arrives then wire.request.toList else []).countP Request.notifies ≤ wire.notices := by
  cases arrives with
  | false => exact Nat.zero_le _
  | true =>
      cases wire with
      | sent request =>
          exact Nat.le_of_eq (List.countP_singleton ..)
      | _ => exact Nat.le_refl 0

/-- A handler's poll leaves the caller's wire as it is or answers on it. -/
theorem Wire.served_eq (wire : Wire) (next : Next) :
    wire.served next = wire ∨ wire.served next = next.outcome := by
  cases wire with
  | serving => exact .inr rfl
  | _ => exact .inl rfl

theorem Wire.served_notices (wire : Wire) (next : Next) :
    (wire.served next).notices ≤ wire.notices := by
  rcases wire.served_eq next with kept | served
  · exact Nat.le_of_eq (congrArg Wire.notices kept)
  · have silent : (wire.served next).notices = 0 := by rw [served, outcome_silent]
    omega

theorem countP_eraseIdx {α : Type} (holds : α → Bool) {items : List α} {index : Nat} {item : α}
    (found : items[index]? = some item) :
    (items.eraseIdx index).countP holds + (if holds item then 1 else 0) = items.countP holds := by
  obtain ⟨bound, rfl⟩ := List.getElem?_eq_some_iff.mp found
  rw [← List.Perm.countP_eq holds (List.getElem_cons_eraseIdx_perm bound), List.countP_cons]

theorem checking_le_one (running : Option Running) : checking running ≤ 1 := by
  unfold checking
  split <;> omega

namespace Network

def notices (network : Network) (side : Side) : Nat :=
  (network.wire side).notices + (network.orphans side).countP Request.notifies +
    checking (network.node side.other).running

/-- The handover the network carries out. -/
def handover (network : Network) : Handover Nat Deal where
  party side := {
    phase := (network.node side).phase
    consent := (network.wire side).consent (network.node side).running
    notices := network.notices side
    acknowledged := (network.wire side).acknowledges (network.node side).running }
  pending := network.chain.submitted
  ledger := network.chain.ledger

variable {parties : Side → Crypto} {before after network : Network} {event : NetworkEvent}

/-- The handover, and that an opening is submitted before it is mined. -/
structure Solvent (parties : Side → Crypto) (network : Network) : Prop where
  sound : Sound parties network
  chained : Chained network
  handed : network.handover.Sound Deal.outcome
  unopened : ∀ tx, .opening tx ∈ network.chain.submitted → network.chain.opened = []

theorem Sound.unchecked (sound : Sound parties network) {side : Side} {input : Input}
    {op : UserOp} {poll : Poll}
    (polled : network.poll parties side input = some (.user op, poll)) :
    checking (poll.running (.user op)) = 0 := by
  have held := (sound.coherent side).held_after polled
  unfold Poll.running at held ⊢
  cases shape : poll.next with
  | resolved => rfl
  | suspended call closure =>
      rw [shape] at held
      obtain ⟨_, -, knows⟩ := held _ rfl
      simp [checking, knows.unchecked]

theorem Solvent.nothing_pending (solvent : Solvent parties network) {side : Side} {deal : Deal}
    {done : Bool} (leading : (network.node side).phase = .leading deal done)
    (carriedOut : network.chain.carriedOut deal) : network.chain.submitted = [] := by
  refine List.eq_nil_iff_forall_not_mem.mpr fun other member => ?_
  obtain rfl : deal = other := (solvent.handed.pending_alone member).2 side deal done leading
  cases deal with
  | opening tx =>
      obtain ⟨_, opening, opened, -⟩ := carriedOut
      rw [solvent.unopened tx member] at opened
      cases opened
  | reDraw tx => exact carriedOut.2 member

section Own

variable {side : Side} {input : Input} {op : UserOp} {poll : Poll} {orphans : Side → List Request}

/-- Where the answer a node's own operation takes comes from. -/
inductive Answered (network : Network) (side : Side) : Result Value → Prop
  | peer {result : Result Value} (answered : network.wire side = .answered result) :
      Answered network side result
  | chain {answer : Result Value} {call : ChainCall}
      (holds : (network.node side).running.map Running.call = some (.chain call))
      (answers : network.chain.mayAnswer call answer = true) : Answered network side answer
  | lost {fault : Fault} : Answered network side (.error fault)

/-- What a poll of a node's own operation does to the handover, whichever turn it
takes. -/
structure Owned (network after : Network) (side : Side) (op : UserOp) (poll : Poll) : Prop where
  phase : (after.handover.party side).phase =
    ((network.node side).after (.user op) poll).phase
  consent : (after.handover.party side).consent = none
  acknowledged : ¬ (after.handover.party side).acknowledged
  notices : (after.handover.party side).notices ≤
    (network.handover.party side).notices + poll.next.wire.notices
  theirs : (network.handover.party side.other).Stays (after.handover.party side.other)
  pending : after.handover.pending = network.handover.pending ++ poll.next.submission
  ledger : after.handover.ledger = network.handover.ledger

theorem Owned.loses (owned : Owned network after side op poll)
    (silent : poll.next.wire.notices = 0) :
    (network.handover.party side).Loses (after.handover.party side) := by
  have fewer := owned.notices
  refine ⟨fun deal consents => ?_, by omega, fun acknowledges =>
    absurd acknowledges owned.acknowledged⟩
  rw [owned.consent] at consents
  cases consents

theorem Owned.still (owned : Owned network after side op poll)
    (nothing : poll.next.submission = []) : network.handover.Still after.handover :=
  ⟨by rw [owned.pending, nothing, List.append_nil], owned.ledger⟩

/-- The poll uses up the answer, and acts on no notice of the other node. -/
theorem Sound.owned (sound : Sound parties network)
    (polled : network.poll parties side input = some (.user op, poll))
    (abandoned : (orphans side).countP Request.notifies ≤
      (network.orphans side).countP Request.notifies + (network.wire side).notices)
    (others : orphans side.other = network.orphans side.other) :
    Owned network { network.own side (.user op) poll with orphans } side op poll where
  phase := congrArg Node.phase own_node
  consent := by
    change ((network.own side (.user op) poll).wire side).consent _ = none
    rw [own_wire, wire_brings_nothing.1]
  acknowledged := by
    change ¬ ((network.own side (.user op) poll).wire side).acknowledges _
    rw [own_wire]
    exact wire_brings_nothing.2
  notices := by
    change ((network.own side (.user op) poll).wire side).notices +
      (orphans side).countP Request.notifies +
      checking ((network.own side (.user op) poll).node side.other).running ≤
        network.notices side + poll.next.wire.notices
    rw [own_wire, own_node_other, Network.notices]
    omega
  theirs := by
    have wire : (network.own side (.user op) poll).wire side.other = network.wire side.other :=
      own_wire_other
    have node : (network.own side (.user op) poll).node side.other = network.node side.other :=
      own_node_other
    refine ⟨⟨?_, ?_, ?_⟩, congrArg Node.phase node⟩
    · change ∀ deal, ((network.own side (.user op) poll).wire side.other).consent
        ((network.own side (.user op) poll).node side.other).running = some deal → _
      rw [wire, node]
      exact fun _ consents => consents
    · change ((network.own side (.user op) poll).wire side.other).notices +
        (orphans side.other).countP Request.notifies +
        checking ((network.own side (.user op) poll).node side.other.other).running ≤
          network.notices side.other
      rw [wire, others, Side.other_other, own_node, Network.notices, Node.after,
        sound.unchecked polled]
      omega
    · change ((network.own side (.user op) poll).wire side.other).acknowledges
        ((network.own side (.user op) poll).node side.other).running → _
      rw [wire, node]
      exact id
  pending := rfl
  ledger := rfl

theorem Solvent.own (solvent : Solvent parties network)
    (polled : network.poll parties side input = some (.user op, poll))
    (source : ∀ answer, input = .resume answer → Answered network side answer)
    (owned : Owned network after side op poll) :
    Handover.Step Deal.outcome network.handover after.handover := by
  have coherent := solvent.sound.coherent side
  cases coherent.turn polled with
  | stay kept quiet =>
      exact .stay ((side.forall_iff).mpr
        ⟨⟨owned.loses quiet.silent, owned.phase.trans kept⟩, owned.theirs⟩)
        (owned.still quiet.submission)
  | abandon leading leads quiet =>
      exact .abandon side leading (owned.phase.trans leads) (owned.loses quiet.silent) owned.theirs
        (owned.still quiet.submission)
  | @lead value deal signature _ stable answer _ asks leads submission silent =>
      subst answer
      obtain ⟨running, holds, asks⟩ := Option.bind_eq_some_iff.mp asks
      obtain ⟨_, -, held⟩ := coherent.held _ holds
      obtain ⟨request, _, waits, -⟩ := held.asks asks
      refine .lead side stable ?_ (owned.phase.trans leads) (owned.loses silent) owned.consent
        owned.theirs (by rw [owned.pending, submission]) owned.ledger
      cases source _ rfl with
      | peer answered =>
          change (network.wire side).consent (network.node side).running = some deal
          rw [answered, holds]
          exact asks
      | chain calls =>
          rw [holds, Option.map_some, waits] at calls
          cases calls
  | @notify deal _ call answer leading answers holds _ carriedOut leads submission =>
      subst answers
      obtain ⟨running, waits, calls⟩ := Option.map_eq_some_iff.mp holds
      have confirms : network.chain.mayAnswer call answer = true := by
        cases source _ rfl with
        | peer answered =>
            obtain ⟨_, _, _, asks⟩ :=
              (solvent.sound.wires side).waits (by rw [answered]; exact nofun)
            obtain rfl := Option.some.inj (waits.symm.trans asks)
            cases calls
        | chain calls answers =>
            rw [holds] at calls
            cases calls
            exact answers
        | lost => cases call <;> rfl
      have given := owned.notices
      have one := poll.next.wire.notices_le_one
      exact .notify side leading (solvent.nothing_pending leading (carriedOut _ confirms))
        (owned.phase.trans leads) owned.consent (by omega) owned.acknowledged owned.theirs
        (owned.still submission)
  | finish leading answer _ notified holds quiet =>
      subst answer
      refine .finish side leading ?_ (owned.phase.trans holds) (owned.loses quiet.silent)
        owned.acknowledged owned.theirs (owned.still quiet.submission)
      cases source _ rfl with
      | peer answered =>
          change (network.wire side).acknowledges (network.node side).running
          rw [answered]
          exact notified
      | chain calls =>
          obtain ⟨running, waits, calls⟩ := Option.map_eq_some_iff.mp calls
          obtain ⟨_, -, held⟩ := coherent.held _ waits
          rw [waits] at notified
          obtain ⟨_, asks⟩ := held.notified notified
          cases asks.symm.trans calls
  | follow _ input | listen _ input =>
      have asked := operation_of_poll polled
      rw [input] at asked
      cases asked
  | conclude _ theirs => cases theirs

end Own

section Serve

variable {side : Side} {input : Input} {request : Request} {poll : Poll} {wire : Wire}
  {orphans : Side → List Request}

/-- A consent a handler answers with is for the transaction it was asked for, by
a node that holds a value. -/
theorem Sound.consent_sent (sound : Sound parties network) {asked : Request} {deal : Deal}
    {next : Next} (sent : network.wire side = .sent asked)
    (consents : next.outcome.consent (network.node side).running = some deal) :
    asked.deal = some deal ∧ ∃ value, (network.node side).phase = .stable value := by
  have ok := sound.wires side
  rw [sent] at ok
  obtain ⟨op, closure, holds⟩ := ok.asks
  obtain ⟨counterparty, entry, held⟩ := (sound.coherent side).held _ holds
  have asks : closure.asks = some deal := by
    rw [holds] at consents
    unfold Next.outcome Wire.consent at consents
    split at consents
    · exact consents
    · cases consents
  obtain ⟨_, value, calls, proposes, stable⟩ := held.asks asks
  cases calls
  refine ⟨proposes, value, ?_⟩
  rw [Node.phase, entry, holds, stable]

/-- What a poll of a handler does to the handover, whichever turn it takes. -/
structure Served (network after : Network) (side : Side) (input : Input) (request : Request)
    (poll : Poll) : Prop where
  still : network.handover.Still after.handover
  unasked : (network.handover.party side).consent = none
  phase : (after.handover.party side).phase =
    ((network.node side).after (.handler request) poll).phase
  mine : (network.handover.party side).Loses (after.handover.party side)
  theirs : (after.handover.party side.other).phase = (network.handover.party side.other).phase
  consent : ∀ deal, (after.handover.party side.other).consent = some deal →
    (network.handover.party side.other).consent = some deal ∨
      poll.next.outcome.consent (network.node side.other).running = some deal ∧
        ∀ request, input = .request request → network.wire side.other = .sent request
  acknowledged : (after.handover.party side.other).acknowledged →
    (network.handover.party side.other).acknowledged ∨
      poll.next.outcome.acknowledges (network.node side.other).running
  notices : (after.handover.party side.other).notices + input.notices +
      checking (network.node side).running ≤
    (network.handover.party side.other).notices + checking (poll.running (.handler request))

theorem Served.stays (served : Served network after side input request poll)
    (fewer : (after.handover.party side.other).notices ≤
      (network.handover.party side.other).notices)
    (unconsented : poll.next.outcome.consent (network.node side.other).running = none)
    (unacknowledged : ¬ poll.next.outcome.acknowledges (network.node side.other).running) :
    (network.handover.party side.other).Stays (after.handover.party side.other) := by
  refine ⟨⟨fun deal consents => ?_, fewer, fun acknowledges => ?_⟩, served.theirs⟩
  · rcases served.consent deal consents with had | ⟨brought, -⟩
    · exact had
    · cases unconsented.symm.trans brought
  · exact (served.acknowledged acknowledges).resolve_right unacknowledged

theorem Served.quiet (served : Served network after side input request poll)
    (quiet : Quiet (.handler request) poll) :
    (network.handover.party side.other).Stays (after.handover.party side.other) := by
  have notices := served.notices
  rw [quiet.unchecked] at notices
  exact served.stays (by omega) quiet.brings_nothing.1 quiet.brings_nothing.2

/-- The wire of the caller is left as it is or answered, and no notice is heard
twice. -/
theorem Sound.served (sound : Sound parties network)
    (nobody : ∀ op request closure,
      (network.node side).running ≠ some ⟨.user op, .peer request, closure⟩)
    (answers : wire = network.wire side.other ∨ wire = poll.next.outcome ∧
      ∀ request, input = .request request → network.wire side.other = .sent request)
    (delivered : wire.notices + (orphans side.other).countP Request.notifies + input.notices ≤
      (network.wire side.other).notices +
        (network.orphans side.other).countP Request.notifies)
    (others : orphans side = network.orphans side) :
    Served network { network.serve side (.handler request) poll wire with orphans } side input
      request poll := by
  have idle := sound.idle nobody
  have caller : (network.serve side (.handler request) poll wire).wire side.other = wire :=
    serve_wire_other
  have handler : (network.serve side (.handler request) poll wire).node side =
      (network.node side).after (.handler request) poll := serve_node
  have asker : (network.serve side (.handler request) poll wire).node side.other =
      network.node side.other := serve_node_other
  refine ⟨⟨rfl, rfl⟩, ?_, congrArg Node.phase handler, ⟨?_, ?_, ?_⟩, congrArg Node.phase asker,
    ?_, ?_, ?_⟩
  · change (network.wire side).consent _ = none
    rw [idle]
    rfl
  · change ∀ deal, ((network.serve side (.handler request) poll wire).wire side).consent _ =
      some deal → _
    rw [serve_wire, idle]
    exact nofun
  · change ((network.serve side (.handler request) poll wire).wire side).notices +
      (orphans side).countP Request.notifies +
      checking ((network.serve side (.handler request) poll wire).node side.other).running ≤
        network.notices side
    exact Nat.le_of_eq (by rw [serve_wire, asker, others]; rfl)
  · change ((network.serve side (.handler request) poll wire).wire side).acknowledges _ → _
    rw [serve_wire, idle]
    exact False.elim
  · change ∀ deal, ((network.serve side (.handler request) poll wire).wire side.other).consent
      ((network.serve side (.handler request) poll wire).node side.other).running = some deal → _
    rw [caller, asker]
    intro deal consents
    rcases answers with rfl | ⟨rfl, sent⟩
    · exact .inl consents
    · exact .inr ⟨consents, sent⟩
  · change ((network.serve side (.handler request) poll wire).wire side.other).acknowledges
      ((network.serve side (.handler request) poll wire).node side.other).running → _
    rw [caller, asker]
    intro acknowledges
    rcases answers with rfl | ⟨rfl, -⟩
    · exact .inl acknowledges
    · exact .inr acknowledges
  · change ((network.serve side (.handler request) poll wire).wire side.other).notices +
        (orphans side.other).countP Request.notifies +
        checking ((network.serve side (.handler request) poll wire).node
          side.other.other).running + input.notices + checking (network.node side).running ≤
      network.notices side.other + checking (poll.running (.handler request))
    rw [caller, Side.other_other, handler, Network.notices, Side.other_other, Node.after]
    dsimp only
    omega

theorem Solvent.serve (solvent : Solvent parties network)
    (polled : network.poll parties side input = some (.handler request, poll))
    (served : Served network after side input request poll) :
    Handover.Step Deal.outcome network.handover after.handover := by
  have notices := served.notices
  cases (solvent.sound.coherent side).turn polled with
  | stay kept quiet =>
      exact .stay ((side.forall_iff).mpr
        ⟨⟨served.mine, served.phase.trans kept⟩, served.quiet quiet⟩) served.still
  | abandon leading leads quiet =>
      exact .abandon side leading (served.phase.trans leads) served.mine (served.quiet quiet)
        served.still
  | lead _ _ user | notify _ _ _ user | finish _ _ user => cases user
  | follow stable asked proposes follows resolved =>
      subst asked
      have unchecked : checking (poll.running (.handler request)) = 0 := by
        rw [Poll.running, resolved]
        rfl
      refine .follow side stable (served.phase.trans follows) served.mine served.unasked
        served.theirs ?_ (by omega) ?_ served.still
      · intro other consents
        refine (served.consent other consents).imp_right ?_
        rintro ⟨brought, sent⟩
        obtain ⟨same, value, held⟩ := solvent.sound.consent_sent (sent _ rfl) brought
        exact ⟨Option.some.inj (same.symm.trans proposes), value, held⟩
      · intro acknowledges
        refine (served.acknowledged acknowledges).resolve_right ?_
        rw [resolved]
        exact id
  | listen kept asked notifies waits =>
      subst asked
      have acts := checking_le_one (poll.running (.handler request))
      rw [Input.notices, if_pos notifies] at notices
      refine .stay ((side.forall_iff).mpr ⟨⟨served.mine, served.phase.trans kept⟩,
        served.stays (by omega) ?_ ?_⟩) served.still
      · rw [waits]
        rfl
      · rw [waits]
        exact id
  | conclude following _ _ checks holds resolved =>
      have unchecked : checking (poll.running (.handler request)) = 0 := by
        rw [Poll.running, resolved]
        rfl
      rw [unchecked, checks] at notices
      refine .conclude side following (served.phase.trans holds) served.mine served.theirs ?_
        (by omega) served.still
      intro deal consents
      rcases served.consent deal consents with had | ⟨brought, -⟩
      · exact had
      · rw [resolved] at brought
        cases brought

end Serve

section Mine

/-- An opening both nodes signed, before it is mined: each entry leads or
follows it. -/
theorem Solvent.opening_phase (solvent : Solvent parties network) {side : Side}
    {tx : NewChannelTx} (signed : .newChannel tx ∈ (network.node side).signed)
    (unopened : network.chain.opened = []) :
    (∃ done, (network.node side).phase = .leading (.opening tx) done) ∨
      (network.node side).phase = .following (.opening tx) := by
  have coherent := solvent.sound.coherent side
  have backed := coherent.backed
  have unstored : (network.node side).channel = none := by
    refine Option.eq_none_iff_forall_ne_some.mpr fun channel stored => ?_
    obtain ⟨_, opened⟩ := solvent.chained.channels side channel stored
    rw [unopened] at opened
    cases opened
  rw [Node.channel] at unstored
  rw [Node.phase]
  cases entry : (network.node side).entry with
  | none =>
      rw [entry] at backed
      rw [show (network.node side).signed = [] from backed] at signed
      cases signed
  | some counterparty =>
      rw [entry] at unstored
      cases counterparty with
      | new =>
          rw [entry] at backed
          rw [backed.2] at signed
          cases signed
      | creating =>
          obtain rfl := coherent.one_opening signed (solvent.sound.creating_signed entry)
          exact .inl ⟨_, rfl⟩
      | otherCreating =>
          obtain rfl := coherent.one_opening signed (solvent.sound.otherCreating_signed entry)
          exact .inr rfl
      | reDrawing | otherReDrawing | opened => cases unstored

theorem Solvent.mineNewChannel (solvent : Solvent parties network) {tx : NewChannelTx}
    {channelId : Bytes32} (signed : network.bothSigned (.newChannel tx))
    (once : tx ∉ network.chain.opened.map Prod.fst) :
    Handover.Step Deal.outcome network.handover
        (network.mineNewChannel tx channelId).handover ∧
      (network.mineNewChannel tx channelId).chain.submitted = [] := by
  have unopened := solvent.chained.unopened solvent.sound signed.1 once
  have phases : ∀ side, (∃ done, (network.node side).phase = .leading (.opening tx) done) ∨
      (network.node side).phase = .following (.opening tx) := fun side =>
    solvent.opening_phase (bothSigned_iff.mp signed side) unopened
  have leaders : ∀ side deal done, (network.node side).phase = .leading deal done →
      deal = .opening tx := by
    intro side deal done leading
    rcases phases side with ⟨_, leads⟩ | follows
    · cases leads.symm.trans leading
      rfl
    · cases follows.symm.trans leading
  have mined : (network.mineNewChannel tx channelId).chain.submitted = [] := by
    change network.chain.submitted.erase (.opening tx) = []
    cases shape : network.chain.submitted with
    | nil => rfl
    | cons deal rest =>
        have member : deal ∈ network.handover.pending := by
          change deal ∈ network.chain.submitted
          rw [shape]
          exact List.mem_cons_self
        obtain ⟨alone, side, done, leading, -⟩ := solvent.handed.pending deal member
        obtain rfl := leaders side deal done leading
        rw [← shape]
        change network.handover.pending.erase _ = []
        rw [alone, List.erase_cons_head]
  refine ⟨@Handover.Step.commit _ _ _ _ _ tx.total (fun side => ?_) ?_ ?_ mined ?_, mined⟩
  · exact ⟨⟨fun _ => id, Nat.le_refl _, id⟩, rfl⟩
  · intro side value stable
    rcases phases side with ⟨_, leads⟩ | follows
    · cases leads.symm.trans stable
    · cases follows.symm.trans stable
  · intro side deal done leading
    obtain rfl := leaders side deal done leading
    rfl
  · change Chain.ledger (network.mineNewChannel tx channelId).chain = tx.total
    simp [Chain.ledger, Network.mineNewChannel, unopened]

theorem Solvent.reDraw_channel (solvent : Solvent parties network) {side : Side}
    {tx : ReDrawTx} {done : Bool}
    (leading : (network.node side).phase = .leading (.reDraw tx) done) :
    ∃ opening, (opening, tx.channelId) ∈ network.chain.opened := by
  have backed := (solvent.sound.coherent side).backed
  have channels := solvent.chained.channels side
  rw [Node.phase] at leading
  rw [Node.channel] at channels
  cases entry : (network.node side).entry with
  | none =>
      rw [entry] at leading
      cases leading
  | some counterparty =>
      rw [entry] at leading backed channels
      cases counterparty with
      | reDrawing proposed channel =>
          obtain ⟨-, -, _, _, proposes⟩ := backed
          cases leading
          rw [show proposed.unsigned.channelId = channel.channelId from proposes.channelId]
          exact channels channel rfl
      | new | creating | otherCreating | otherReDrawing | opened => cases leading

theorem Solvent.mineReDraw (solvent : Solvent parties network) {tx : ReDrawTx}
    (submitted : .reDraw tx ∈ network.chain.submitted) :
    Handover.Step Deal.outcome network.handover (network.mineReDraw tx).handover ∧
      (network.mineReDraw tx).chain.submitted = [] := by
  have member : Deal.reDraw tx ∈ network.handover.pending := submitted
  obtain ⟨alone, side, done, leading, -, -⟩ := solvent.handed.pending _ member
  obtain ⟨nobody, leaders⟩ := solvent.handed.pending_alone member
  have mined : (network.mineReDraw tx).chain.submitted = [] := by
    change network.handover.pending.erase (.reDraw tx) = []
    rw [alone, List.erase_cons_head]
  refine ⟨@Handover.Step.commit _ _ _ _ _ tx.newTotal (fun side => ?_) nobody ?_ mined ?_, mined⟩
  · exact ⟨⟨fun _ => id, Nat.le_refl _, id⟩, rfl⟩
  · intro side deal done leads
    obtain rfl := leaders side deal done leads
    rfl
  · obtain ⟨opening, opened⟩ := solvent.reDraw_channel leading
    have named : (network.mineReDraw tx).chain.ledger =
        (network.mineReDraw tx).chain.locked tx.channelId :=
      @Chain.ledger_eq (network.mineReDraw tx).chain _ solvent.chained.single opened
    exact named.trans (Function.update_self ..)

end Mine

/-- Every step of the network is one of the handover. -/
theorem Solvent.simulates (solvent : Solvent parties before)
    (stepped : before.step parties event = some after) :
    Handover.Step Deal.outcome before.handover after.handover := by
  cases change_of_step stepped with
  | @started side _ _ _ polled =>
      obtain ⟨-, rfl, -⟩ := poll_start polled
      exact solvent.own polled nofun (solvent.sound.owned polled (Nat.le_add_right ..) rfl)
  | @chainAnswered side _ _ _ _ _ _ holds answers polled =>
      obtain rfl := operation_of_held polled holds
      refine solvent.own polled ?_ (solvent.sound.owned polled (Nat.le_add_right ..) rfl)
      rintro _ ⟨⟩
      exact .chain (by rw [holds]; rfl) answers
  | @replied side _ _ _ answered polled =>
      obtain ⟨op, _, _, holds⟩ := (solvent.sound.wires side).waits (by rw [answered]; exact nofun)
      obtain rfl := operation_of_held polled holds
      refine solvent.own polled ?_ (solvent.sound.owned polled (Nat.le_add_right ..) rfl)
      rintro _ ⟨⟩
      exact .peer answered
  | @gaveUp side arrives _ _ waiting polled =>
      obtain ⟨op, _, _, holds⟩ := (solvent.sound.wires side).waits waiting
      obtain rfl := operation_of_held polled holds
      refine solvent.own polled ?_
        (solvent.sound.owned polled ?_ (Function.update_of_ne side.other_ne ..))
      · rintro _ ⟨⟩
        exact .lost
      · rw [Function.update_self, List.countP_append]
        exact Nat.add_le_add_left ((before.wire side).orphaned_notices arrives) _
  | @lookedUp side _ request _ _ _ _ holds answers polled =>
      obtain rfl := operation_of_held polled holds
      refine solvent.serve polled (solvent.sound.served (by simp [holds]) ?_ ?_ rfl)
      · exact ((before.wire side.other).served_eq _).imp_right fun served => ⟨served, nofun⟩
      · exact Nat.add_le_add_right ((before.wire side.other).served_notices _) _
  | @delivered side _ _ _ sent polled =>
      obtain ⟨idle, rfl, -⟩ := poll_request polled
      refine solvent.serve polled
        (solvent.sound.served (by simp [idle]) (.inr ⟨rfl, ?_⟩) ?_ rfl)
      · rintro _ ⟨⟩
        rwa [Side.other_other]
      · rw [Side.other_other, sent, outcome_silent]
        exact Nat.le_of_eq (by rw [Nat.zero_add, Nat.add_comm]; rfl)
  | @orphanDelivered side index _ _ _ found polled =>
      obtain ⟨idle, rfl, -⟩ := poll_request polled
      refine solvent.serve polled (solvent.sound.served (by simp [idle])
        (.inl (by rw [Side.other_other])) ?_ (Function.update_of_ne side.other_ne ..))
      rw [Side.other_other, Function.update_self, Nat.add_assoc]
      exact Nat.add_le_add_left (Nat.le_of_eq (countP_eraseIdx Request.notifies found)) _
  | opened signed once => exact (solvent.mineNewChannel signed once).1
  | reDrawn submitted => exact (solvent.mineReDraw submitted).1

/-- A node that submits an opening finds none on the chain: the chain has only
openings this node signed. -/
theorem Solvent.submits (solvent : Solvent parties network) {side : Side} {input : Input}
    {operation : Operation} {poll : Poll} {tx : NewChannelTx}
    (polled : network.poll parties side input = some (operation, poll))
    (pending : .opening tx ∈ network.chain.submitted ++ poll.next.submission) :
    network.chain.opened = [] := by
  rcases List.mem_append.mp pending with before | submits
  · exact solvent.unopened tx before
  · have unsigned := (solvent.sound.coherent side).submits_opening polled submits
    refine List.eq_nil_iff_forall_not_mem.mpr fun opening opened => ?_
    have signed := bothSigned_iff.mp (solvent.chained.signed opening opened) side
    rw [unsigned] at signed
    cases signed

theorem Solvent.step (solvent : Solvent parties before)
    (stepped : before.step parties event = some after) : Solvent parties after := by
  refine ⟨solvent.sound.step stepped, solvent.chained.step solvent.sound stepped,
    solvent.handed.step (solvent.simulates stepped), ?_⟩
  intro tx pending
  cases change_of_step stepped with
  | started polled | chainAnswered _ _ polled | replied _ polled | gaveUp _ polled =>
      exact solvent.submits polled pending
  | lookedUp | delivered | orphanDelivered => exact solvent.unopened tx pending
  | opened signed once =>
      rw [(solvent.mineNewChannel signed once).2] at pending
      cases pending
  | reDrawn submitted =>
      rw [(solvent.mineReDraw submitted).2] at pending
      cases pending

theorem solvent_fresh : Solvent parties fresh where
  sound := sound_fresh
  chained := chained_fresh
  handed := Handover.sound_start (fun _ => rfl) (fun _ => rfl) (fun _ => rfl) (fun _ => id) rfl
  unopened _ _ := rfl

theorem solvent_of_run {taken : List (Transition Network NetworkEvent)}
    (run : (machine parties).Run fresh taken network) : Solvent parties network :=
  run.invariant (Solvent parties) solvent_fresh fun _ _ _ solvent stepped => solvent.step stepped

/-- An open entry holds the total of the ledger. -/
theorem Solvent.ledger_of_open (solvent : Solvent parties network) {side : Side}
    {channel : Channel} (opened : (network.node side).entry = some (.opened channel)) :
    network.chain.ledger = channel.total :=
  (solvent.handed.sided side).stable channel.total (Node.phase_of_opened opened)

/-- Solvency: in every reachable state, an open entry holds the total the
contract has locked for its channel. -/
theorem solvency {taken : List (Transition Network NetworkEvent)} {side : Side}
    {channel : Channel} (run : (machine parties).Run fresh taken network)
    (entry : (network.node side).entry = some (.opened channel)) :
    channel.balance0.toNat + channel.balance1.toNat =
      network.chain.locked channel.channelId := by
  have solvent := solvent_of_run run
  obtain ⟨_, opened⟩ :=
    solvent.chained.channels side channel (Node.channel_of_opened entry)
  have ledger := solvent.ledger_of_open entry
  rw [Chain.ledger_eq solvent.chained.single opened] at ledger
  exact ledger.symm

theorem Solvent.deal_of_checking (solvent : Solvent parties network) {side : Side}
    (checks : checking (network.node side).running = 1) :
    ∃ deal, (network.node side.other).phase = .leading deal true ∧
      (network.node side).phase = .following deal := by
  have given : 1 ≤ network.notices side.other := by
    rw [notices, Side.other_other, checks]
    omega
  obtain ⟨-, -, deal, leads, follows⟩ := (solvent.handed.sided side.other).noticed given
  rw [Side.other_other] at follows
  exact ⟨deal, leads, follows⟩

/-- Node 1 adds 5 to its channel and never hears that node 2 knows: node 2 is open
with the 15 the contract has locked. -/
theorem solvency_lost_acknowledgement :
    ∃ taken network, (machine Sample.parties).Run fresh taken network ∧
      (network.node .a).entry ≠ (network.node .b).entry ∧
      ∃ channel, (network.node .b).entry = some (.opened channel) ∧ channel.balance0 = 15 ∧
        channel.balance0.toNat + channel.balance1.toNat =
          network.chain.locked channel.channelId := by
  obtain ⟨network, reached, differ, entry⟩ :
      ∃ network ∈ (machine Sample.parties).replay fresh
        (Sample.opening ++ Sample.adding ++ [.giveUp .a false]),
        (network.node .a).entry ≠ (network.node .b).entry ∧
          (network.node .b).entry = some (.opened ⟨7, 1, 15, 0, 0, false⟩) := by
    decide +kernel
  have run := Machine.run_of_replay reached
  exact ⟨_, network, run, differ, _, entry, rfl, solvency run entry⟩

end Network

end Guac
