import Mathlib.Logic.Function.Basic
import Guac.Node.Coherent

/-!
Owns the whole node, one entry for every counterparty address, against peers
that send anything in any order: what it returns a signature for, how often it
opens a channel, and what it signs while it waits for a notify.
-/

set_option autoImplicit false

namespace Guac

open Foundation

/-- `Storage`: the entries by counterparty address. -/
abbrev Storage := Address → Node

def Storage.fresh : Storage := fun _ => .fresh

/-- One poll of the node, for the counterparty the event names. -/
def storageStep (crypto : Crypto) (storage : Storage) (event : Address × Input) :
    Option Storage :=
  match (storage event.1).step crypto event.1 event.2 with
  | none => none
  | some node => some (Function.update storage event.1 node)

def storageMachine (crypto : Crypto) : Machine Storage (Address × Input) :=
  ⟨storageStep crypto⟩

def Node.returned (crypto : Crypto) (theirAddress : Address) (node : Node) (input : Input) :
    Option (Operation × Result Value) :=
  match node.poll crypto theirAddress input with
  | some (operation, ⟨_, _, .resolved result⟩) => some (operation, result)
  | _ => none

/-- The operation a transition of the node ends, with its result. -/
def returned (crypto : Crypto) (transition : Transition Storage (Address × Input)) :
    Option (Operation × Result Value) :=
  (transition.before transition.event.1).returned crypto transition.event.1 transition.event.2

/-- The notify that completes what a node signed as responder. -/
inductive Notifies : Request → Request → Prop
  | opened (tx : NewChannelTx) : Notifies (.proposeChannel tx) .notifyChannelOpened
  | reDrawn (tx : ReDrawTx) : Notifies (.proposeReDraw tx) .notifyReDraw

/-- The entry waits for this notify. -/
inductive Awaits : Request → Option Counterparty → Prop
  | opened (tx : NewChannelTx) (iAm0 : Bool) :
      Awaits .notifyChannelOpened (some (.otherCreating tx iAm0))
  | reDrawn (tx : ReDrawTx) (channel : Channel) :
      Awaits .notifyReDraw (some (.otherReDrawing tx channel))

variable {crypto : Crypto} {theirAddress : Address}

theorem returned_eq_some {node : Node} {input : Input} {operation : Operation}
    {result : Result Value} :
    node.returned crypto theirAddress input = some (operation, result) ↔
      ∃ poll, node.poll crypto theirAddress input = some (operation, poll) ∧
        poll.next = .resolved result := by
  unfold Node.returned
  constructor
  · intro returns
    split at returns
    next polled =>
      obtain ⟨rfl, rfl⟩ := Prod.mk.inj (Option.some.inj returns)
      exact ⟨_, polled, rfl⟩
    next => cases returns
  · rintro ⟨⟨entry, signed, next⟩, polled, rfl⟩
    rw [polled]

theorem storageStep_eq_some {before after : Storage} {event : Address × Input} :
    storageStep crypto before event = some after ↔
      ∃ node, (before event.1).step crypto event.1 event.2 = some node ∧
        after = Function.update before event.1 node := by
  unfold storageStep
  cases (before event.1).step crypto event.1 event.2 <;> simp [eq_comm]

/-- Every entry of a node is coherent. -/
def Storage.Coherent (crypto : Crypto) (storage : Storage) : Prop :=
  ∀ address, Guac.Coherent crypto address (storage address)

theorem Storage.coherent_fresh : Storage.fresh.Coherent crypto := fun _ => Guac.coherent_fresh

theorem Storage.Coherent.step {before after : Storage} {event : Address × Input}
    (coherent : before.Coherent crypto) (stepped : storageStep crypto before event = some after) :
    after.Coherent crypto := by
  obtain ⟨node, moved, rfl⟩ := storageStep_eq_some.mp stepped
  intro address
  by_cases same : address = event.1
  · subst same
    rw [Function.update_self]
    exact (coherent event.1).step moved
  · rw [Function.update_of_ne same]
    exact coherent address

/-! ### What a signature is returned for -/

/-- A proposal is answered in the poll that receives it. -/
theorem Coherent.receives_proposal {node : Node} {input : Input} {request notify : Request}
    (coherent : Coherent crypto theirAddress node) (proposal : Notifies request notify)
    (polled : node.operation input = some (.handler request)) : input = .request request := by
  cases input with
  | start op => simp [Node.operation] at polled
  | request received =>
      simp only [Node.operation, Option.some.injEq, Operation.handler.injEq] at polled
      rw [polled]
  | resume answer =>
      obtain ⟨⟨_, call, closure⟩, holds, rfl⟩ := Option.map_eq_some_iff.mp polled
      obtain ⟨counterparty, -, held⟩ := coherent.held _ holds
      cases held <;> cases proposal

theorem Coherent.signs_proposeChannel {node : Node} {input : Input} {tx : NewChannelTx}
    {signature : Signature} (coherent : Coherent crypto theirAddress node)
    (returns : node.returned crypto theirAddress input =
      some (.handler (.proposeChannel tx), .ok (.signature signature))) :
    signature = crypto.ethSign (tx.fingerprint crypto) ∧
      ProposalOk crypto theirAddress (crypto.role theirAddress) tx := by
  obtain ⟨poll, polled, resolved⟩ := returned_eq_some.mp returns
  obtain rfl := coherent.receives_proposal (.opened tx) (operation_of_poll polled)
  have move := move_of_poll polled
  have ofNew := coherent.of_new
  generalize node.running.map Running.closure = closure at move
  generalize node.entry = entry at move ofNew
  cases move with
  | refused => cases resolved
  | acceptChannel found checked =>
      obtain ⟨rfl, -⟩ := ofNew _ found
      obtain rfl := Value.signature.inj (Except.ok.inj (Next.resolved.inj resolved))
      exact ⟨rfl, checked⟩

theorem Coherent.signs_proposeReDraw {node : Node} {input : Input} {tx : ReDrawTx}
    {signature : Signature} (coherent : Coherent crypto theirAddress node)
    (returns : node.returned crypto theirAddress input =
      some (.handler (.proposeReDraw tx), .ok (.signature signature))) :
    signature = crypto.ethSign (tx.fingerprint crypto) ∧
      ∃ channel, node.entry = some (.opened channel) ∧ ReDrawOk channel tx := by
  obtain ⟨poll, polled, resolved⟩ := returned_eq_some.mp returns
  obtain rfl := coherent.receives_proposal (.reDrawn tx) (operation_of_poll polled)
  have move := move_of_poll polled
  generalize node.running.map Running.closure = closure at move
  generalize node.entry = entry at move
  cases move with
  | refused => cases resolved
  | acceptReDraw checked =>
      obtain rfl := Value.signature.inj (Except.ok.inj (Next.resolved.inj resolved))
      exact ⟨rfl, _, rfl, checked⟩

theorem Coherent.awaits_after {node : Node} {input : Input} {request notify : Request}
    {signature : Signature} (coherent : Coherent crypto theirAddress node)
    (proposal : Notifies request notify)
    (returns : node.returned crypto theirAddress input =
      some (.handler request, .ok (.signature signature))) :
    ∃ after, node.step crypto theirAddress input = some after ∧ Awaits notify after.entry := by
  obtain ⟨poll, polled, resolved⟩ := returned_eq_some.mp returns
  obtain rfl := coherent.receives_proposal proposal (operation_of_poll polled)
  refine ⟨_, step_eq_some.mpr ⟨_, poll, polled, rfl⟩, ?_⟩
  have move := move_of_poll polled
  generalize node.running.map Running.closure = closure at move
  generalize node.entry = entry at move
  cases proposal with
  | opened =>
      cases move with
      | refused => cases resolved
      | acceptChannel => exact .opened _ _
  | reDrawn =>
      cases move with
      | refused => cases resolved
      | acceptReDraw => exact .reDrawn _ _

/-- An entry that waits for a notify signs nothing and goes on waiting, unless
the poll ends that notify with success. -/
theorem Coherent.awaits_step {node : Node} {input : Input} {notify : Request}
    {operation : Operation} {poll : Poll} (coherent : Coherent crypto theirAddress node)
    (awaits : Awaits notify node.entry)
    (polled : node.poll crypto theirAddress input = some (operation, poll)) :
    (Awaits notify poll.entry ∧ poll.signed = []) ∨
      (operation = .handler notify ∧ ∃ value, poll.next = .resolved (.ok value)) := by
  obtain ⟨entry, closure, found, -, move, -, resumes⟩ := coherent.moved polled
  rw [found] at awaits
  cases awaits with
  | opened tx iAm0 =>
      cases move with
      | refused kept =>
          rcases kept with rfl | ⟨impossible, -⟩
          · exact .inl ⟨.opened tx iAm0, rfl⟩
          · cases impossible
      | failed | checkOpen => exact .inl ⟨.opened tx iAm0, rfl⟩
      | fillNew found | acceptChannel found => cases found
      | accrue accrued => cases accrued
      | openedAsResponder =>
          obtain ⟨_, _, -, -, held⟩ := resumes _ rfl
          cases held
          exact .inr ⟨rfl, _, rfl⟩
      | _ =>
          obtain ⟨_, _, ⟨⟩, -, held⟩ := resumes _ rfl
          cases held
  | reDrawn tx channel =>
      cases move with
      | refused kept =>
          rcases kept with rfl | ⟨impossible, -⟩
          · exact .inl ⟨.reDrawn tx channel, rfl⟩
          · cases impossible
      | failed | checkReDraw => exact .inl ⟨.reDrawn tx channel, rfl⟩
      | fillNew found | acceptChannel found => cases found
      | accrue accrued =>
          cases accrued
          exact .inl ⟨.reDrawn tx _, rfl⟩
      | reDrawnAsResponder =>
          obtain ⟨_, _, -, -, held⟩ := resumes _ rfl
          cases held
          exact .inr ⟨rfl, _, rfl⟩
      | _ =>
          obtain ⟨_, _, ⟨⟩, -, held⟩ := resumes _ rfl
          cases held

/-! ### Whole runs -/

section Runs

variable {taken : List (Transition Storage (Address × Input))} {state : Storage}

theorem Storage.coherent_of_run (run : (storageMachine crypto).Run .fresh taken state) :
    state.Coherent crypto :=
  run.invariant (Storage.Coherent crypto) Storage.coherent_fresh
    fun _ _ _ coherent stepped => coherent.step stepped

theorem Storage.coherent_before (run : (storageMachine crypto).Run .fresh taken state) :
    ∀ transition ∈ taken, transition.before.Coherent crypto :=
  run.before (Storage.Coherent crypto) Storage.coherent_fresh
    fun _ _ _ coherent stepped => coherent.step stepped

/-- While no matching notify succeeds, a node signs nothing after it signed as
responder. -/
theorem Storage.awaits_run {start : Storage} {address : Address} {notify : Request}
    (run : (storageMachine crypto).Run start taken state) (coherent : start.Coherent crypto)
    (awaits : Awaits notify (start address).entry)
    (unnotified : ∀ transition ∈ taken, transition.event.1 = address → ∀ value,
      returned crypto transition ≠ some (.handler notify, .ok value)) :
    (state address).signed = (start address).signed := by
  have kept := run.invariant_of_guard
    (fun storage => storage.Coherent crypto ∧ Awaits notify (storage address).entry ∧
      (storage address).signed = (start address).signed)
    (fun before event => event.1 = address → ∀ value,
      (before event.1).returned crypto event.1 event.2 ≠ some (.handler notify, .ok value))
    ⟨coherent, awaits, rfl⟩ ?_ unnotified
  · exact kept.2.2
  · rintro before event after ⟨coherent, awaits, signed⟩ unnotified stepped
    refine ⟨coherent.step stepped, ?_⟩
    obtain ⟨node, moved, rfl⟩ := storageStep_eq_some.mp stepped
    by_cases same : address = event.1
    · subst same
      obtain ⟨operation, poll, polled, rfl⟩ := step_eq_some.mp moved
      rw [Function.update_self]
      rcases (coherent event.1).awaits_step awaits polled with ⟨still, nothing⟩ | ⟨rfl, value, ends⟩
      · refine ⟨still, ?_⟩
        rw [← signed, Node.after, nothing, List.append_nil]
      · exact absurd (returned_eq_some.mpr ⟨poll, polled, ends⟩) (unnotified rfl value)
    · rw [Function.update_of_ne same]
      exact ⟨awaits, signed⟩

/-- Signing safety towards a hostile peer: the four promises of a node about
its signatures, over every run of its entries. -/
theorem signing_safety (run : (storageMachine crypto).Run .fresh taken state) :
    (∀ transition ∈ taken, ∀ tx signature,
      returned crypto transition =
          some (.handler (.proposeChannel tx), .ok (.signature signature)) →
        signature = crypto.ethSign (tx.fingerprint crypto) ∧
          ProposalOk crypto transition.event.1 (crypto.role transition.event.1) tx) ∧
      (∀ transition ∈ taken, ∀ tx signature,
        returned crypto transition =
            some (.handler (.proposeReDraw tx), .ok (.signature signature)) →
          signature = crypto.ethSign (tx.fingerprint crypto) ∧
            ∃ channel, (transition.before transition.event.1).entry = some (.opened channel) ∧
              ReDrawOk channel tx) ∧
      (∀ address, ((state address).signed.filter SignedTx.opens).length ≤ 1) ∧
      (∀ earlier signing between, taken = earlier ++ signing :: between →
        ∀ request notify signature, Notifies request notify →
          returned crypto signing = some (.handler request, .ok (.signature signature)) →
          (∀ transition ∈ between, transition.event.1 = signing.event.1 → ∀ value,
            returned crypto transition ≠ some (.handler notify, .ok value)) →
          (state signing.event.1).signed = (signing.after signing.event.1).signed) := by
  have before := Storage.coherent_before run
  refine ⟨?_, ?_, fun address => (Storage.coherent_of_run run address).once, ?_⟩
  · intro transition member tx signature returns
    exact (before transition member transition.event.1).signs_proposeChannel returns
  · intro transition member tx signature returns
    exact (before transition member transition.event.1).signs_proposeReDraw returns
  · rintro earlier signing between rfl request notify signature proposal returns unnotified
    obtain ⟨first, stepped, rest⟩ := run.split
    have coherent := before signing (by simp)
    obtain ⟨after, moved, awaits⟩ := (coherent signing.event.1).awaits_after proposal returns
    obtain ⟨node, same, changed⟩ := storageStep_eq_some.mp stepped
    obtain rfl := Option.some.inj (moved.symm.trans same)
    refine Storage.awaits_run rest (coherent.step stepped) ?_ unnotified
    rw [changed, Function.update_self]
    exact awaits

/-- A peer proposes a channel; the node signs it, then refuses to open another
one and to finish a redraw that was never proposed. -/
theorem signing_safety_proposal :
    ∃ state ∈ (storageMachine (Sample.crypto 1)).replay .fresh
        [(2, .request (.proposeChannel ⟨1, 2, 0, 5, 40, 5000, none, none⟩)),
          (2, .start (.fillChannel 7)), (2, .request .notifyReDraw)],
      (state 2).signed = [.newChannel ⟨1, 2, 0, 5, 40, 5000, none, none⟩] ∧
        ((state 2).signed.filter SignedTx.opens).length ≤ 1 := by
  obtain ⟨state, reached, log⟩ : ∃ state ∈ (storageMachine (Sample.crypto 1)).replay .fresh
      [(2, .request (.proposeChannel ⟨1, 2, 0, 5, 40, 5000, none, none⟩)),
        (2, .start (.fillChannel 7)), (2, .request .notifyReDraw)],
      (state 2).signed = [.newChannel ⟨1, 2, 0, 5, 40, 5000, none, none⟩] := by
    decide +kernel
  exact ⟨state, reached, log, (signing_safety (Machine.run_of_replay reached)).2.2.1 2⟩

end Runs

end Guac
