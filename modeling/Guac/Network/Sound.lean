import Guac.Network.System

/-!
Owns what holds in every state of the network: both entries are coherent, a
wire in use belongs to an operation that waits for the peer, and a wire that is
being served belongs to a handler of the other node for that very request.
-/

set_option autoImplicit false

namespace Guac

open Foundation

theorem Held.handler_call {crypto : Crypto} {theirAddress : Address}
    {counterparty : Counterparty} {request : Request} {call : Call} {closure : Closure}
    (held : Held crypto theirAddress counterparty ⟨.handler request, call, closure⟩) :
    ∃ chainCall, call = .chain chainCall := by
  cases held <;> exact ⟨_, rfl⟩

namespace Network

/-- What a wire says of the operation it belongs to and of the other node's. -/
inductive WireOk : Wire → Option Running → Option Running → Prop
  | idle {mine theirs : Option Running}
      (chainCalls : ∀ running ∈ mine, ∃ chainCall, running.call = .chain chainCall) :
      WireOk .idle mine theirs
  | sent {op : UserOp} {request : Request} {closure : Closure} {theirs : Option Running} :
      WireOk (.sent request) (some ⟨.user op, .peer request, closure⟩) theirs
  | serving {op : UserOp} {request : Request} {closure theirClosure : Closure} {call : Call} :
      WireOk .serving (some ⟨.user op, .peer request, closure⟩)
        (some ⟨.handler request, call, theirClosure⟩)
  | answered {op : UserOp} {request : Request} {closure : Closure} {result : Result Value}
      {theirs : Option Running} :
      WireOk (.answered result) (some ⟨.user op, .peer request, closure⟩) theirs

/-- A wire in use belongs to a user operation that waits for the peer. -/
theorem WireOk.waits {wire : Wire} {mine theirs : Option Running} (ok : WireOk wire mine theirs)
    (waiting : wire ≠ .idle) :
    ∃ op request closure, mine = some ⟨.user op, .peer request, closure⟩ := by
  cases ok with
  | idle => exact absurd rfl waiting
  | sent | serving | answered => exact ⟨_, _, _, rfl⟩

theorem WireOk.served {mine theirs : Option Running} (ok : WireOk .serving mine theirs) :
    ∃ op request closure call theirClosure, mine = some ⟨.user op, .peer request, closure⟩ ∧
      theirs = some ⟨.handler request, call, theirClosure⟩ := by
  cases ok
  exact ⟨_, _, _, _, _, rfl, rfl⟩

theorem WireOk.asks {request : Request} {mine theirs : Option Running}
    (ok : WireOk (.sent request) mine theirs) :
    ∃ op closure, mine = some ⟨.user op, .peer request, closure⟩ := by
  cases ok
  exact ⟨_, _, rfl⟩

theorem WireOk.of_not_serving {wire : Wire} {mine theirs others : Option Running}
    (ok : WireOk wire mine theirs) (free : wire ≠ .serving) : WireOk wire mine others := by
  cases ok with
  | idle chainCalls => exact .idle chainCalls
  | sent => exact .sent
  | serving => exact absurd rfl free
  | answered => exact .answered

/-- The invariant of the network. -/
structure Sound (parties : Side → Crypto) (network : Network) : Prop where
  coherent : ∀ side,
    Coherent (parties side) (parties side.other).ownAddress (network.node side)
  wires : ∀ side,
    WireOk (network.wire side) (network.node side).running (network.node side.other).running

theorem sound_fresh {parties : Side → Crypto} : Sound parties fresh where
  coherent _ := coherent_fresh
  wires _ := .idle (by simp [fresh, Node.fresh])

variable {parties : Side → Crypto} {network after : Network} {side : Side}

/-- A node that waits for no peer has an idle wire. -/
theorem Sound.idle (sound : Sound parties network)
    (nobody : ∀ op request closure,
      (network.node side).running ≠ some ⟨.user op, .peer request, closure⟩) :
    network.wire side = .idle := by
  by_contra waiting
  obtain ⟨op, request, closure, holds⟩ := (sound.wires side).waits waiting
  exact nobody op request closure holds

theorem Sound.not_serving (sound : Sound parties network)
    (nobody : ∀ request call closure,
      (network.node side).running ≠ some ⟨.handler request, call, closure⟩) :
    network.wire side.other ≠ .serving := by
  intro serving
  have wire := sound.wires side.other
  rw [serving, Side.other_other] at wire
  obtain ⟨_, request, _, call, closure, -, holds⟩ := wire.served
  exact nobody request call closure holds

theorem wireOk_own {op : UserOp} {poll : Poll} {theirs : Option Running} :
    WireOk poll.next.wire (poll.running (.user op)) theirs := by
  unfold Next.wire Poll.running
  cases poll.next with
  | resolved => exact .idle (by simp)
  | suspended call closure =>
      cases call with
      | peer => exact .sent
      | chain => exact .idle (by simp)

theorem wireOk_outcome {op : UserOp} {request : Request} {closure : Closure} {poll : Poll} :
    WireOk poll.next.outcome (some ⟨.user op, .peer request, closure⟩)
      (poll.running (.handler request)) := by
  unfold Next.outcome Poll.running
  cases poll.next with
  | resolved => exact .answered
  | suspended => exact .serving

theorem Sound.own (sound : Sound parties network) {input : Input} {operation : Operation}
    {op : UserOp} {poll : Poll}
    (polled : network.poll parties side input = some (operation, poll))
    (mine : operation = .user op)
    (nobody : ∀ request call closure,
      (network.node side).running ≠ some ⟨.handler request, call, closure⟩) :
    Sound parties (network.own side operation poll) := by
  subst mine
  have free := sound.not_serving nobody
  refine ⟨(side.forall_iff).mpr ⟨?_, ?_⟩, (side.forall_iff).mpr ⟨?_, ?_⟩⟩
  · rw [own_node]
    exact (sound.coherent side).step (step_eq_some.mpr ⟨_, _, polled, rfl⟩)
  · rw [own_node_other]
    exact sound.coherent side.other
  · rw [own_wire, own_node]
    exact wireOk_own
  · rw [Side.other_other, own_wire_other, own_node_other]
    exact (sound.wires side.other).of_not_serving free

theorem Sound.serve (sound : Sound parties network) {input : Input} {request : Request}
    {poll : Poll} {wire : Wire}
    (polled : network.poll parties side input = some (.handler request, poll))
    (nobody : ∀ op request closure,
      (network.node side).running ≠ some ⟨.user op, .peer request, closure⟩)
    (served : WireOk wire (network.node side.other).running (poll.running (.handler request))) :
    Sound parties (network.serve side (.handler request) poll wire) := by
  have coherent : Coherent (parties side) (parties side.other).ownAddress
      ((network.node side).after (.handler request) poll) :=
    (sound.coherent side).step (step_eq_some.mpr ⟨_, _, polled, rfl⟩)
  refine ⟨(side.forall_iff).mpr ⟨?_, ?_⟩, (side.forall_iff).mpr ⟨?_, ?_⟩⟩
  · rw [serve_node]
    exact coherent
  · rw [serve_node_other]
    exact sound.coherent side.other
  · rw [serve_wire, serve_node, sound.idle nobody]
    refine .idle fun running holds => ?_
    obtain ⟨counterparty, -, held⟩ := coherent.held running holds
    unfold Node.after Poll.running at holds
    cases next : poll.next with
    | resolved => simp [next] at holds
    | suspended call closure =>
        simp only [next, Option.mem_def, Option.some.injEq] at holds
        subst holds
        exact held.handler_call
  · rw [Side.other_other, serve_wire_other, serve_node_other, serve_node]
    exact served

/-- Every step keeps the network sound. -/
theorem Sound.step (sound : Sound parties network) {event : NetworkEvent}
    (stepped : network.step parties event = some after) : Sound parties after := by
  cases change_of_step stepped with
  | started polled =>
      obtain ⟨idle, mine, -⟩ := poll_start polled
      exact sound.own polled mine (by simp [idle])
  | chainAnswered holds answers polled =>
      obtain rfl := operation_of_held polled holds
      exact sound.own polled rfl (by simp [holds])
  | @lookedUp side answer request call closure operation poll holds answers polled =>
      obtain rfl := operation_of_held polled holds
      refine sound.serve polled (by simp [holds]) ?_
      have wire := sound.wires side.other
      rw [Side.other_other, holds] at wire
      cases shape : network.wire side.other with
      | serving =>
          rw [shape] at wire
          obtain ⟨_, _, _, _, _, waits, same⟩ := wire.served
          obtain rfl := Operation.handler.inj (Running.mk.inj (Option.some.inj same)).1
          rw [waits]
          exact wireOk_outcome
      | idle | sent | answered =>
          rw [shape] at wire
          exact wire.of_not_serving (by simp)
  | @delivered side request operation poll sent polled =>
      obtain ⟨idle, rfl, -⟩ := poll_request polled
      refine sound.serve polled (by simp [idle]) ?_
      have wire := sound.wires side
      rw [sent] at wire
      obtain ⟨_, _, waits⟩ := wire.asks
      rw [Side.other_other, waits]
      exact wireOk_outcome
  | @orphanDelivered side index request operation poll found polled =>
      obtain ⟨idle, rfl, -⟩ := poll_request polled
      have free : network.wire side ≠ .serving := by
        have free := @Sound.not_serving _ _ side.other sound (by simp [idle])
        rwa [Side.other_other] at free
      have served := sound.serve polled (by simp [idle])
        (by rw [Side.other_other]; exact (sound.wires side).of_not_serving free)
      exact ⟨served.coherent, served.wires⟩
  | replied answered polled =>
      obtain ⟨op, request, closure, holds⟩ := (sound.wires _).waits (by rw [answered]; simp)
      obtain rfl := operation_of_held polled holds
      exact sound.own polled rfl (by simp [holds])
  | gaveUp waiting polled =>
      obtain ⟨op, request, closure, holds⟩ := (sound.wires _).waits waiting
      obtain rfl := operation_of_held polled holds
      have owned := sound.own polled rfl (by simp [holds])
      exact ⟨owned.coherent, owned.wires⟩
  | opened | reDrawn => exact ⟨sound.coherent, sound.wires⟩

theorem sound_of_run {taken : List (Transition Network NetworkEvent)}
    (run : (machine parties).Run fresh taken network) : Sound parties network :=
  run.invariant (Sound parties) sound_fresh fun _ _ _ sound stepped => sound.step stepped

end Network

end Guac
