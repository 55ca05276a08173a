import Guac.Foundation.Simulation
import Guac.Http.Responses
import Guac.Network.Solvency

/-!
Owns two nodes that call each other over HTTP, each among any number of other
counterparties. A request travels as the message the client posts, the server hands it to
the handler of the entry it names, and the result travels back as a response the client
checks and reads. Anybody may post to the servers, under any address but those of the two.
The servers would take a post under those too, since nothing in a body is authenticated; it
does what no run of the two nodes does, and is left out here.

The network of the two nodes alone, whose wires carry requests and results, is in lockstep
with it: as long as nobody posts in their names, HTTP neither adds a behaviour nor takes
one away.
-/

set_option autoImplicit false

namespace Guac

open Foundation

/-- The call of a node to the other, as messages. -/
inductive HttpWire (τ : Type) where
  | idle
  | sent (message : HttpRequest τ)
  | serving
  | answered (response : Option (HttpResponse τ))

/-- Two nodes with all their entries, the wire of each to the other, the messages each has
abandoned, and the chain. -/
structure HttpNetwork (τ : Type) where
  storage : Side → Storage
  wire : Side → HttpWire τ
  orphans : Side → List (HttpRequest τ)
  chain : Chain

/-- An event between the two nodes, a message anybody else posts to one of them, or
anything that happens to another entry of one of them. -/
inductive HttpEvent (τ : Type) where
  | between (event : NetworkEvent)
  | posted (side : Side) (message : HttpRequest τ)
  | elsewhere (side : Side) (theirAddress : Address) (input : Input)

def HttpEvent.between? {τ : Type} : HttpEvent τ → Option NetworkEvent
  | .between event => some event
  | .posted _ _ => none
  | .elsewhere _ _ _ => none

section Polls

variable {τ : Type} (json : Json τ)

/-- The wire of a node after a poll of its own operation. -/
def Next.post (ownAddress : Address) : Next → HttpWire τ
  | .suspended (.peer request) _ => .sent (json.post ownAddress request)
  | _ => .idle

def Next.respond : Next → HttpWire τ
  | .resolved result => .answered (json.respond result)
  | .suspended _ _ => .serving

def HttpWire.message : HttpWire τ → Option (HttpRequest τ)
  | .sent message => some message
  | _ => none

/-- The wire of the caller after a later poll of a handler. -/
def HttpWire.served (wire : HttpWire τ) (next : Next) : HttpWire τ :=
  match wire with
  | .serving => next.respond json
  | _ => wire

end Polls

namespace HttpNetwork

variable {τ : Type}

section Step

variable (json : Json τ) (parties : Side → Crypto)

def node (network : HttpNetwork τ) (side : Side) : Node :=
  network.storage side (parties side.other).ownAddress

def poll (network : HttpNetwork τ) (side : Side) (theirAddress : Address) (input : Input) :
    Option (Operation × Poll) :=
  (network.storage side theirAddress).poll (parties side) theirAddress input

def pollPeer (network : HttpNetwork τ) (side : Side) (input : Input) :
    Option (Operation × Poll) :=
  network.poll parties side (parties side.other).ownAddress input

def store (network : HttpNetwork τ) (side : Side) (theirAddress : Address)
    (operation : Operation) (poll : Poll) : Side → Storage :=
  Function.update network.storage side
    (Function.update (network.storage side) theirAddress
      ((network.storage side theirAddress).after operation poll))

/-- A poll of the node's own operation towards the other. -/
def own (network : HttpNetwork τ) (side : Side) (operation : Operation) (poll : Poll) :
    HttpNetwork τ :=
  { network with
    storage := network.store side (parties side.other).ownAddress operation poll
    wire := Function.update network.wire side (poll.next.post json (parties side).ownAddress)
    chain := { network.chain with
      submitted := network.chain.submitted ++ poll.next.submission } }

/-- A poll of a handler for an address, which leaves the other's wire as given. -/
def serve (network : HttpNetwork τ) (side : Side) (theirAddress : Address)
    (operation : Operation) (poll : Poll) (wire : HttpWire τ) : HttpNetwork τ :=
  { network with
    storage := network.store side theirAddress operation poll
    wire := Function.update network.wire side.other wire }

def bothSigned (network : HttpNetwork τ) (tx : SignedTx) : Prop :=
  tx ∈ (network.node parties .a).signed ∧ tx ∈ (network.node parties .b).signed

instance (network : HttpNetwork τ) (tx : SignedTx) :
    Decidable (network.bothSigned parties tx) :=
  inferInstanceAs (Decidable (_ ∧ _))

def between (network : HttpNetwork τ) : NetworkEvent → Option (HttpNetwork τ)
  | .start side op =>
      (network.pollPeer parties side (.start op)).map fun polled =>
        network.own json parties side polled.1 polled.2
  | .answerChain side answer =>
      match (network.node parties side).running with
      | some ⟨.user _, .chain call, _⟩ =>
          if network.chain.mayAnswer call answer then
            (network.pollPeer parties side (.resume answer)).map fun polled =>
              network.own json parties side polled.1 polled.2
          else none
      | some ⟨.handler _, .chain call, _⟩ =>
          if network.chain.mayAnswer call answer then
            (network.pollPeer parties side (.resume answer)).map fun polled =>
              network.serve side (parties side.other).ownAddress polled.1 polled.2
                ((network.wire side.other).served json polled.2.next)
          else none
      | _ => none
  | .deliver side =>
      match network.wire side with
      | .sent message =>
          match json.dispatch message with
          | some (theirAddress, request) =>
              (network.poll parties side.other theirAddress (.request request)).map fun polled =>
                network.serve side.other theirAddress polled.1 polled.2
                  (polled.2.next.respond json)
          | none => none
      | _ => none
  | .deliverOrphan side index =>
      match (network.orphans side)[index]?.bind json.dispatch with
      | some (theirAddress, request) =>
          (network.poll parties side.other theirAddress (.request request)).map fun polled =>
            { network.serve side.other theirAddress polled.1 polled.2 (network.wire side) with
              orphans :=
                Function.update network.orphans side ((network.orphans side).eraseIdx index) }
      | none => none
  | .reply side =>
      match network.wire side, (network.node parties side).running with
      | .answered response, some ⟨_, .peer request, _⟩ =>
          (network.pollPeer parties side (.resume (json.receive request response))).map
            fun polled => network.own json parties side polled.1 polled.2
      | _, _ => none
  | .giveUp side arrives =>
      match network.wire side with
      | .idle => none
      | wire =>
          (network.pollPeer parties side (.resume (.error (.failure "timeout")))).map
            fun polled =>
              { network.own json parties side polled.1 polled.2 with
                orphans := Function.update network.orphans side
                  (network.orphans side ++ if arrives then wire.message.toList else []) }
  | .mineNewChannel tx channelId =>
      if network.bothSigned parties (.newChannel tx) ∧
          ∀ opening ∈ network.chain.opened, opening.1 ≠ tx ∧ opening.2 ≠ channelId then
        some { network with
          chain := { network.chain with
            opened := network.chain.opened ++ [(tx, channelId)]
            submitted := network.chain.submitted.erase (.opening tx)
            locked := Function.update network.chain.locked channelId tx.total } }
      else none
  | .mineReDraw tx =>
      if .reDraw tx ∈ network.chain.submitted ∧ network.bothSigned parties (.reDraw tx) then
        some { network with
          chain := { network.chain with
            submitted := network.chain.submitted.erase (.reDraw tx)
            reDrawn := network.chain.reDrawn ++ [tx]
            locked := Function.update network.chain.locked tx.channelId tx.newTotal } }
      else none

/-- A step of an entry for anybody but the other node. -/
def elsewhere (network : HttpNetwork τ) (side : Side) (theirAddress : Address) (input : Input) :
    Option (HttpNetwork τ) :=
  if theirAddress = (parties side.other).ownAddress then none
  else
    (network.poll parties side theirAddress input).map fun polled =>
      { network with storage := network.store side theirAddress polled.1 polled.2 }

def step (network : HttpNetwork τ) : HttpEvent τ → Option (HttpNetwork τ)
  | .between event => network.between json parties event
  | .posted side message =>
      match json.dispatch message with
      | some (theirAddress, request) =>
          network.elsewhere parties side theirAddress (.request request)
      | none => some network
  | .elsewhere side theirAddress input => network.elsewhere parties side theirAddress input

def machine : Machine (HttpNetwork τ) (HttpEvent τ) := ⟨step json parties⟩

end Step

def fresh : HttpNetwork τ where
  storage _ := Storage.fresh
  wire _ := .idle
  orphans _ := []
  chain := ⟨[], [], [], fun _ => 0⟩

end HttpNetwork

/-! ### What the two nodes see -/

/-- The call of a node as messages and as what they say; `mine` is the operation of the
node. -/
inductive WireCarries {τ : Type} (json : Json τ) (ownAddress : Address) (mine : Option Running) :
    HttpWire τ → Wire → Prop
  | idle : WireCarries json ownAddress mine .idle .idle
  | sent (request : Request) :
      WireCarries json ownAddress mine (.sent (json.post ownAddress request)) (.sent request)
  | serving : WireCarries json ownAddress mine .serving .serving
  | answered {op : UserOp} {request : Request} {closure : Closure} {result : Result Value}
      (waits : mine = some ⟨.user op, .peer request, closure⟩)
      (returns : ∀ value, result = .ok value → request.Returns value) :
      WireCarries json ownAddress mine (.answered (json.respond result))
        (.answered (overHttp result))

namespace Sample

/-- A stranger proposes a channel to node 2 and posts nonsense to node 1, while node 1 opens
channel 7 with node 2. -/
def openingOverHttp : List (HttpEvent Body) :=
  [.posted .b (json.post 3 (.proposeChannel ⟨2, 3, 0, 4, 50, 5000, none, none⟩)),
    .posted .a ⟨"GET", "/propose_channel", .empty⟩] ++ opening.map .between

end Sample

namespace HttpNetwork

variable {τ : Type}

/-- The network of messages shows the two nodes alone as `seen`. -/
structure Carries (json : Json τ) (parties : Side → Crypto) (network : HttpNetwork τ)
    (seen : Network) : Prop where
  node : ∀ side, network.node parties side = seen.node side
  wire : ∀ side, WireCarries json (parties side).ownAddress (seen.node side).running
    (network.wire side) (seen.wire side)
  orphans : ∀ side, network.orphans side =
    (seen.orphans side).map (json.post (parties side).ownAddress)
  chain : network.chain = seen.chain

theorem carries_fresh {json : Json τ} {parties : Side → Crypto} :
    Carries json parties fresh Network.fresh where
  node _ := rfl
  wire _ := .idle
  orphans _ := rfl
  chain := rfl

section Lockstep

variable {json : Json τ} {parties : Side → Crypto} {network : HttpNetwork τ} {seen : Network}
  {side : Side} {operation : Operation} {poll : Poll}

theorem node_store {theirAddress : Address} (second : Side)
    (other : theirAddress ≠ (parties side.other).ownAddress) :
    network.store side theirAddress operation poll second
        (parties second.other).ownAddress = network.node parties second := by
  unfold store node
  rcases eq_or_ne second side with rfl | different
  · rw [Function.update_self, Function.update_of_ne other.symm]
  · rw [Function.update_of_ne different]

theorem Carries.store (carries : Carries json parties network seen) (second : Side) :
    network.store side (parties side.other).ownAddress operation poll second
        (parties second.other).ownAddress =
      Function.update seen.node side ((seen.node side).after operation poll) second := by
  unfold HttpNetwork.store
  rcases eq_or_ne second side with rfl | different
  · have same := carries.node second
    unfold HttpNetwork.node at same
    rw [Function.update_self, Function.update_self, Function.update_self, same]
  · rw [Function.update_of_ne different, Function.update_of_ne different]
    exact carries.node second

theorem Carries.poll_eq (carries : Carries json parties network seen) {input : Input} :
    network.pollPeer parties side input = seen.poll parties side input := by
  unfold HttpNetwork.pollPeer HttpNetwork.poll Network.poll
  rw [← carries.node side]
  rfl

theorem Carries.serves_eq (carries : Carries json parties network seen) {input : Input} :
    network.poll parties side.other (parties side).ownAddress input =
      seen.poll parties side.other input := by
  have same : network.pollPeer parties side.other input = seen.poll parties side.other input :=
    carries.poll_eq
  unfold HttpNetwork.pollPeer at same
  rwa [Side.other_other] at same

theorem wireCarries_own {mine : Option Running} {ownAddress : Address} {next : Next} :
    WireCarries json ownAddress mine (next.post json ownAddress) next.wire := by
  unfold Next.post Next.wire
  cases next with
  | resolved => exact .idle
  | suspended call closure =>
      cases call with
      | peer request => exact .sent request
      | chain => exact .idle

theorem Carries.own (carries : Carries json parties network seen) :
    Carries json parties (network.own json parties side operation poll)
      (seen.own side operation poll) where
  node := carries.store
  wire := by
    refine (side.forall_iff).mpr ⟨?_, ?_⟩
    · have post : (network.own json parties side operation poll).wire side =
          poll.next.post json (parties side).ownAddress := Function.update_self ..
      rw [post, Network.own_wire]
      exact wireCarries_own
    · have kept : (network.own json parties side operation poll).wire side.other =
          network.wire side.other := Function.update_of_ne side.other_ne ..
      rw [kept, Network.own_wire_other, Network.own_node_other]
      exact carries.wire side.other
  orphans := carries.orphans
  chain := by
    unfold HttpNetwork.own Network.own
    simp only [carries.chain]

theorem wireCarries_respond {op : UserOp} {request : Request} {closure : Closure}
    {mine : Option Running} {ownAddress : Address} {next : Next}
    (waits : mine = some ⟨.user op, .peer request, closure⟩)
    (returns : ∀ value, next = .resolved (.ok value) → request.Returns value) :
    WireCarries json ownAddress mine (next.respond json) next.outcome := by
  cases next with
  | suspended => exact .serving
  | resolved result =>
      refine .answered waits ?_
      rintro value rfl
      exact returns value rfl

theorem Carries.serve (carries : Carries json parties network seen) {message : HttpWire τ}
    {wire : Wire} (idle : seen.wire side = .idle)
    (carried : WireCarries json (parties side.other).ownAddress (seen.node side.other).running
      message wire) :
    Carries json parties
      (network.serve side (parties side.other).ownAddress operation poll message)
      (seen.serve side operation poll wire) where
  node := carries.store
  wire := by
    have messages := carries.wire side
    rw [idle] at messages
    refine (side.forall_iff).mpr ⟨?_, ?_⟩
    · have kept : (network.serve side (parties side.other).ownAddress operation poll
          message).wire side = network.wire side := Function.update_of_ne side.ne_other ..
      rw [kept, Network.serve_wire, idle]
      generalize network.wire side = mine at messages
      cases messages
      exact .idle
    · have put : (network.serve side (parties side.other).ownAddress operation poll
          message).wire side.other = message := Function.update_self ..
      rw [put, Network.serve_wire_other, Network.serve_node_other]
      exact carried
  orphans := carries.orphans
  chain := carries.chain

theorem Carries.serve_idle (carries : Carries json parties network seen)
    (sound : Network.Sound parties seen) {message : HttpWire τ} {wire : Wire}
    (nobody : ∀ op request closure,
      (seen.node side.other).running ≠ some ⟨.user op, .peer request, closure⟩)
    (carried : WireCarries json (parties side).ownAddress (seen.node side).running
      message wire) :
    Carries json parties
      (network.serve side.other (parties side).ownAddress operation poll message)
      (seen.serve side.other operation poll wire) := by
  have idle := sound.idle nobody
  have served (carried : WireCarries json (parties side.other.other).ownAddress
      (seen.node side.other.other).running message wire) :
      Carries json parties
        (network.serve side.other (parties side.other.other).ownAddress operation poll message)
        (seen.serve side.other operation poll wire) := carries.serve idle carried
  rw [Side.other_other] at served
  exact served carried

theorem Carries.start (carries : Carries json parties network seen) (op : UserOp) :
    Option.Rel (Carries json parties) (network.between json parties (.start side op))
      (seen.step parties (.start side op)) := by
  change Option.Rel _ (Option.map _ (network.pollPeer parties side (.start op)))
    (Option.map _ (seen.poll parties side (.start op)))
  rw [carries.poll_eq]
  exact rel_map fun _ _ => carries.own

theorem Carries.answerChain (carries : Carries json parties network seen)
    (sound : Network.Sound parties seen) (answer : Result Value) :
    Option.Rel (Carries json parties) (network.between json parties (.answerChain side answer))
      (seen.step parties (.answerChain side answer)) := by
  simp only [HttpNetwork.between, Network.step]
  rw [carries.node, carries.chain, carries.poll_eq]
  cases holds : (seen.node side).running with
  | none => exact .none
  | some running =>
      obtain ⟨operation, call, closure⟩ := running
      cases call with
      | peer request =>
          cases operation with
          | user op => exact .none
          | handler served => exact .none
      | chain call =>
          by_cases answers : seen.chain.mayAnswer call answer = true
          · cases operation with
            | user op =>
                simp only [answers, if_true]
                exact rel_map fun _ _ => carries.own
            | handler request =>
                simp only [answers, if_true]
                refine rel_map fun polled same => carries.serve (sound.idle (by simp [holds])) ?_
                -- the caller may have given up, or still waits for this handler
                have carried := carries.wire side.other
                have wire := sound.wires side.other
                rw [Side.other_other, holds] at wire
                unfold HttpWire.served Wire.served
                generalize network.wire side.other = message at carried
                cases shape : seen.wire side.other with
                | serving =>
                    rw [shape] at carried wire
                    cases carried
                    obtain ⟨_, _, _, _, _, waits, ours⟩ := wire.served
                    obtain rfl := Operation.handler.inj (Running.mk.inj (Option.some.inj ours)).1
                    refine wireCarries_respond waits fun value resolved => ?_
                    obtain ⟨operation, poll⟩ := polled
                    obtain rfl := operation_of_held same holds
                    exact (sound.coherent side).returns same resolved
                | idle | sent | answered =>
                    rw [shape] at carried
                    cases carried
                    constructor <;> assumption
          · cases operation with
            | user op =>
                simp only [answers]
                exact .none
            | handler request =>
                simp only [answers]
                exact .none

theorem Carries.deliver (carries : Carries json parties network seen)
    (sound : Network.Sound parties seen) :
    Option.Rel (Carries json parties) (network.between json parties (.deliver side))
      (seen.step parties (.deliver side)) := by
  simp only [HttpNetwork.between, Network.step]
  have carried := carries.wire side
  have wire := sound.wires side
  generalize network.wire side = message at carried
  generalize seen.wire side = call at carried wire
  cases carried with
  | idle | serving | answered => exact .none
  | sent request =>
      simp only [dispatch_post]
      rw [carries.serves_eq]
      refine rel_map ?_
      rintro ⟨operation, poll⟩ polled
      obtain ⟨idle, rfl, -⟩ := poll_request polled
      obtain ⟨op, closure, waits⟩ := wire.asks
      refine carries.serve_idle sound (by simp [idle]) ?_
      exact wireCarries_respond waits fun value resolved =>
        (sound.coherent side.other).returns polled resolved

theorem Carries.deliverOrphan (carries : Carries json parties network seen)
    (sound : Network.Sound parties seen) (index : Nat) :
    Option.Rel (Carries json parties) (network.between json parties (.deliverOrphan side index))
      (seen.step parties (.deliverOrphan side index)) := by
  simp only [HttpNetwork.between, Network.step]
  rw [carries.orphans, List.getElem?_map]
  cases found : (seen.orphans side)[index]? with
  | none => exact .none
  | some request =>
      simp only [Option.map_some, Option.bind_some, dispatch_post]
      rw [carries.serves_eq]
      refine rel_map ?_
      rintro ⟨operation, poll⟩ polled
      obtain ⟨idle, rfl, -⟩ := poll_request polled
      have served : Carries json parties
          (network.serve side.other (parties side).ownAddress (.handler request) poll
            (network.wire side))
          (seen.serve side.other (.handler request) poll (seen.wire side)) :=
        carries.serve_idle sound (by simp [idle]) (carries.wire side)
      refine ⟨served.node, served.wire, ?_, served.chain⟩
      intro second
      rcases eq_or_ne second side with rfl | different
      · simp only [Function.update_self, List.eraseIdx_map]
      · simp only [Function.update_of_ne different]
        exact carries.orphans second

theorem Carries.reply (carries : Carries json parties network seen) :
    Option.Rel (Carries json parties) (network.between json parties (.reply side))
      (seen.step parties (.reply side)) := by
  simp only [HttpNetwork.between, Network.step]
  rw [carries.node]
  have carried := carries.wire side
  generalize network.wire side = message at carried
  generalize seen.wire side = call at carried
  cases carried with
  | idle | serving | sent => exact .none
  | @answered op request closure result waits returns =>
      simp only [waits]
      rw [carries.poll_eq]
      cases result with
      | ok value =>
          rw [receive_ok (returns value rfl)]
          exact rel_map fun _ _ => carries.own
      | error fault =>
          -- both errors end the operation the same way
          obtain ⟨text, refused⟩ : ∃ text, json.receive request (json.respond (.error fault)) =
              .error (.failure text) := receive_error fault
          rw [refused, overHttp]
          unfold Network.poll
          rw [resume_error waits, resume_error waits]
          exact .some carries.own

theorem Carries.giveUp (carries : Carries json parties network seen) (arrives : Bool) :
    Option.Rel (Carries json parties) (network.between json parties (.giveUp side arrives))
      (seen.step parties (.giveUp side arrives)) := by
  have abandons (message : HttpWire τ) (wire : Wire) (operation : Operation) (poll : Poll)
      (carried : message.message.toList =
        wire.request.toList.map (json.post (parties side).ownAddress)) :
      Carries json parties
        { network.own json parties side operation poll with
          orphans := Function.update network.orphans side
            (network.orphans side ++ if arrives then message.message.toList else []) }
        { seen.own side operation poll with
          orphans := Function.update seen.orphans side
            (seen.orphans side ++ if arrives then wire.request.toList else []) } := by
    have owned : Carries json parties (network.own json parties side operation poll)
        (seen.own side operation poll) := carries.own
    refine ⟨owned.node, owned.wire, ?_, owned.chain⟩
    intro second
    rcases eq_or_ne second side with rfl | different
    · simp only [Function.update_self, List.map_append, carries.orphans second, carried]
      cases arrives <;> rfl
    · simp only [Function.update_of_ne different]
      exact carries.orphans second
  simp only [HttpNetwork.between, Network.step]
  have carried := carries.wire side
  generalize network.wire side = message at carried
  generalize seen.wire side = call at carried
  cases carried with
  | idle => exact .none
  | sent request | serving | answered =>
      rw [carries.poll_eq]
      exact rel_map fun polled _ => abandons _ _ polled.1 polled.2 rfl

theorem Carries.bothSigned_iff (carries : Carries json parties network seen) (tx : SignedTx) :
    network.bothSigned parties tx ↔ seen.bothSigned tx := by
  unfold HttpNetwork.bothSigned Network.bothSigned
  rw [carries.node, carries.node]

/-- What is between the two nodes is in lockstep with the network that carries no
messages. -/
theorem Carries.between (carries : Carries json parties network seen)
    (sound : Network.Sound parties seen) (event : NetworkEvent) :
    Option.Rel (Carries json parties) (network.between json parties event)
      (seen.step parties event) := by
  cases event with
  | start side op => exact carries.start op
  | answerChain side answer => exact carries.answerChain sound answer
  | deliver side => exact carries.deliver sound
  | deliverOrphan side index => exact carries.deliverOrphan sound index
  | reply side => exact carries.reply
  | giveUp side arrives => exact carries.giveUp arrives
  | mineNewChannel tx channelId =>
      simp only [HttpNetwork.between, Network.step, carries.bothSigned_iff, carries.chain,
        Chain.unused_iff]
      split
      · exact .some ⟨carries.node, carries.wire, carries.orphans, rfl⟩
      · exact .none
  | mineReDraw tx =>
      simp only [HttpNetwork.between, Network.step, carries.bothSigned_iff, carries.chain]
      split
      · exact .some ⟨carries.node, carries.wire, carries.orphans, rfl⟩
      · exact .none

/-- Nothing that happens to another entry is seen between the two nodes. -/
theorem Carries.elsewhere (carries : Carries json parties network seen)
    {after : HttpNetwork τ} {theirAddress : Address} {input : Input}
    (stepped : network.elsewhere parties side theirAddress input = some after) :
    Carries json parties after seen := by
  unfold HttpNetwork.elsewhere at stepped
  split at stepped
  · cases stepped
  next other =>
    obtain ⟨⟨operation, poll⟩, -, rfl⟩ := Option.map_eq_some_iff.mp stepped
    refine ⟨?_, carries.wire, carries.orphans, carries.chain⟩
    intro second
    exact (node_store second other).trans (carries.node second)

end Lockstep

section Runs

variable (json : Json τ) (parties : Side → Crypto)

/-- The network of messages and the network without them are in lockstep. -/
theorem lockstep :
    Lockstep (machine json parties) (Network.machine parties) HttpEvent.between?
      fun network seen => Carries json parties network seen ∧ Network.Sound parties seen where
  silent := by
    rintro network after seen event ⟨carries, sound⟩ silent stepped
    refine ⟨?_, sound⟩
    cases event with
    | between => cases silent
    | elsewhere side theirAddress input => exact carries.elsewhere stepped
    | posted side message =>
        change (match json.dispatch message with
          | some (theirAddress, request) =>
              network.elsewhere parties side theirAddress (.request request)
          | none => some network) = some after at stepped
        cases sent : json.dispatch message with
        | none =>
            rw [sent] at stepped
            obtain rfl := Option.some.inj stepped
            exact carries
        | some call =>
            rw [sent] at stepped
            exact carries.elsewhere stepped
  together := by
    rintro network seen event read ⟨carries, sound⟩ reads
    cases event with
    | posted => cases reads
    | elsewhere => cases reads
    | between event =>
        obtain rfl := Option.some.inj reads
        have together := carries.between sound event
        change Option.Rel _ (network.between json parties event) (seen.step parties event)
        cases moved : seen.step parties event with
        | none =>
            rw [moved] at together
            generalize network.between json parties event = outcome at together
            cases together
            exact .none
        | some after =>
            rw [moved] at together
            generalize network.between json parties event = outcome at together
            cases together with
            | some carriesNext => exact .some ⟨carriesNext, sound.step moved⟩

/-- HTTP neither adds a behaviour nor takes one away: whatever strangers post under any
address but those of the two, and whatever other entries do, what the two nodes and the
chain go through is a run of the network without messages, and every run of that network is
one over HTTP. -/
theorem network_over_http :
    (∀ events network, (machine json parties).replay fresh events = some network →
      ∃ seen, (Network.machine parties).replay Network.fresh
          (events.filterMap HttpEvent.between?) = some seen ∧
        Carries json parties network seen) ∧
      ∀ events seen, (Network.machine parties).replay Network.fresh events = some seen →
        ∃ network, (machine json parties).replay fresh (events.map .between) = some network ∧
          Carries json parties network seen := by
  have related : Carries json parties fresh Network.fresh ∧
      Network.Sound parties Network.fresh := ⟨carries_fresh, Network.sound_fresh⟩
  constructor
  · intro events network replayed
    obtain ⟨seen, replay, carries, -⟩ :=
      (lockstep json parties).simulation.replay related replayed
    exact ⟨seen, replay, carries⟩
  · intro events seen replayed
    have written (event : NetworkEvent) :
        HttpEvent.between? (.between event : HttpEvent τ) = some event := rfl
    obtain ⟨network, replay, carries, -⟩ :=
      ((lockstep json parties).lifting written).replay related replayed
    rw [← List.map_eq_flatMap] at replay
    exact ⟨network, replay, carries⟩

variable {json parties} in
/-- Solvency over HTTP: whatever strangers post under any address but those of the two, an
open entry for the other node holds the total the contract has locked for its channel. -/
theorem solvency_over_http {events : List (HttpEvent τ)} {network : HttpNetwork τ}
    {side : Side} {channel : Channel}
    (replayed : (machine json parties).replay fresh events = some network)
    (entry : (network.node parties side).entry = some (.opened channel)) :
    channel.balance0.toNat + channel.balance1.toNat =
      network.chain.locked channel.channelId := by
  obtain ⟨seen, replay, carries, -⟩ :=
    (lockstep json parties).simulation.replay ⟨carries_fresh, Network.sound_fresh⟩ replayed
  have solvent := Network.solvent_of_run (Machine.run_of_replay replay)
  rw [carries.node] at entry
  obtain ⟨_, opened⟩ := solvent.chained.channels side channel (Node.channel_of_opened entry)
  have ledger := solvent.ledger_of_open entry
  rw [Chain.ledger_eq solvent.chained.single opened] at ledger
  rw [carries.chain]
  exact ledger.symm

end Runs

/-- Both nodes hold the 10 the contract has locked, and node 2 has an entry for the
stranger. -/
theorem solvency_over_http_opening :
    ∃ network ∈ (machine Sample.json Sample.parties).replay fresh Sample.openingOverHttp,
      (network.storage .b 3).entry ≠ none ∧
        ∃ channel, (network.node Sample.parties .b).entry = some (.opened channel) ∧
          channel.balance0 = 10 ∧
          channel.balance0.toNat + channel.balance1.toNat =
            network.chain.locked channel.channelId := by
  obtain ⟨network, reached, stranger, entry⟩ :
      ∃ network ∈ (machine Sample.json Sample.parties).replay fresh Sample.openingOverHttp,
        (network.storage .b 3).entry ≠ none ∧
          (network.node Sample.parties .b).entry = some (.opened ⟨7, 0, 10, 0, 0, false⟩) := by
    decide +kernel
  exact ⟨network, reached, stranger, _, entry, rfl, solvency_over_http reached entry⟩

end HttpNetwork

end Guac
