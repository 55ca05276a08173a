import Guac.Foundation.Family
import Guac.Node.Signing
import Guac.Node.Rollback

/-!
Owns what a refused inbound request leaves in the storage. A handler answers in
its first poll or waits once for the chain; every check stands before the only
write, so a refusal leaves the entry it found. `propose_channel` alone creates
the entry it then refuses to change.

It does not own what a refused operation of the user leaves: `Rollback` does.
-/

set_option autoImplicit false

namespace Guac

open Foundation

/-- The results by which a handler refuses a request: an error, or the stored
sequence number for an update that is not newer. -/
inductive Rejects : Request → Result Value → Prop
  | failed (request : Request) (fault : Fault) : Rejects request (.error fault)
  | stale (updateTx : UpdateTx) (sequenceNumber : Uint256) :
      Rejects (.receivePayment updateTx) (.ok (.maybeSeq (some sequenceNumber)))

/-- The entry is as it was, or `propose_channel` added the `New` of an address that
had none. -/
def LeavesNoTrace (crypto : Crypto) (fromAddress : Address) (request : Request)
    (before after : Option Counterparty) : Prop :=
  after = before ∨
    (∃ newChannelTx, request = .proposeChannel newChannelTx) ∧ before = none ∧
      after = some (.new (decide (crypto.ownAddress < fromAddress)))

theorem storageMachine_family (crypto : Crypto) :
    storageMachine crypto = Machine.family (entryMachine crypto) := by
  have step : (storageMachine crypto).step = (Machine.family (entryMachine crypto)).step := by
    funext storage event
    apply Option.ext
    intro after
    rw [Machine.family_step]
    exact storageStep_eq_some
  exact congrArg Machine.mk step

section Handlers

variable (crypto : Crypto) (fromAddress : Address) (request : Request)
  (entry : Option Counterparty)

/-- What a poll of a handler does from `entry`: it refuses and leaves no trace, it
answers, with the entry untouched if it names a sequence number, or it waits for
the chain and has written nothing. -/
inductive Handled : Poll → Prop
  | refused {after : Option Counterparty} {signed : List SignedTx} {fault : Fault}
      (kept : LeavesNoTrace crypto fromAddress request entry after) :
      Handled ⟨after, signed, .resolved (.error fault)⟩
  | answered {after : Option Counterparty} {signed : List SignedTx} {value : Value}
      (kept : ∀ sequenceNumber, value = .maybeSeq (some sequenceNumber) → after = entry) :
      Handled ⟨after, signed, .resolved (.ok value)⟩
  | waits {signed : List SignedTx} {call : Call} {closure : Closure}
      (phase : closure.phase = .handler) :
      Handled ⟨entry, signed, .suspended call closure⟩

variable {crypto fromAddress request entry}

theorem Handled.resign {poll : Poll} (handled : Handled crypto fromAddress request entry poll)
    (signed : List SignedTx) :
    Handled crypto fromAddress request entry { poll with signed } := by
  cases handled with
  | refused kept => exact .refused kept
  | answered kept => exact .answered kept
  | waits phase => exact .waits phase

theorem handled_of_start :
    Handled crypto fromAddress request entry (request.start crypto fromAddress entry) := by
  have move : Move crypto fromAddress entry none (.request request)
      (request.start crypto fromAddress entry) :=
    @move_of_poll crypto fromAddress ⟨entry, none, []⟩ _ _ _ rfl
  generalize started : request.start crypto fromAddress entry = poll at move
  generalize shape : Input.request request = input at move
  generalize idle : (none : Option Closure) = closure at move
  cases move with
  | refused kept =>
      rcases kept with rfl | ⟨rfl, rfl⟩
      · exact .refused (.inl rfl)
      · refine .refused ?_
        cases request with
        | proposeChannel newChannelTx => exact .inr ⟨⟨newChannelTx, rfl⟩, rfl, rfl⟩
        | proposeReDraw | notifyChannelOpened | notifyReDraw | receivePayment => cases started
  | acceptChannel => exact .answered (by simp)
  | acceptReDraw => exact .answered (by simp)
  | checkOpen => exact .waits rfl
  | checkReDraw => exact .waits rfl
  | stalePayment => exact .answered fun _ _ => rfl
  | acceptPayment => exact .answered (by simp)
  | fillNew => cases shape
  | startReDraw => cases shape
  | pay => cases shape
  | accrue => cases shape
  | _ => cases idle

theorem handled_of_resume {closure : Closure} {answer : Result Value} {next : Poll}
    (phase : closure.phase = .handler)
    (resumed : closure.resume crypto fromAddress entry answer = some next) :
    Handled crypto fromAddress request entry next := by
  cases move_of_resume resumed with
  | failed => exact .refused (.inl rfl)
  | openedAsResponder => exact .answered (by simp)
  | reDrawnAsResponder => exact .answered (by simp)
  | _ => cases phase

/-- A whole call of a handler that refuses leaves no trace. -/
theorem Handled.drive {poll last : Poll} {answers : List (Result Value)} {result : Result Value}
    (handled : Handled crypto fromAddress request entry poll)
    (driven : poll.drive crypto fromAddress answers = some last)
    (returns : last.next = .resolved result) (rejects : Rejects request result) :
    LeavesNoTrace crypto fromAddress request entry last.entry := by
  induction answers generalizing poll with
  | nil =>
      obtain rfl := Option.some.inj driven
      cases handled with
      | refused kept => exact kept
      | answered kept =>
          obtain rfl := Next.resolved.inj returns
          cases rejects
          exact .inl (kept _ rfl)
      | waits => cases returns
  | cons answer rest inductionHypothesis =>
      cases handled with
      | refused => cases driven
      | answered => cases driven
      | waits phase =>
          obtain ⟨next, resumed, driven⟩ := Poll.drive_suspended rfl driven
          exact inductionHypothesis ((handled_of_resume phase resumed).resign _) driven

end Handlers

section Runs

variable {crypto : Crypto} {start state : Storage}
  {taken : List (Transition Storage (Address × Input))} {address : Address} {request : Request}
  {answers : List (Result Value)} {result : Result Value} {poll : Poll}

/-- A rejected request leaves no trace: whatever entry it finds and whatever the
other entries do meanwhile, its own entry is as before the call, and no step of
the call changes an entry of another address. -/
theorem rejected_request_leaves_no_trace
    (run : (storageMachine crypto).Run start taken state)
    (called : eventsAt address taken = .request request :: answers.map .resume)
    (call : request.call crypto address (start address).entry answers = some poll)
    (returns : poll.next = .resolved result) (rejects : Rejects request result) :
    LeavesNoTrace crypto address request (start address).entry (state address).entry ∧
      ∀ transition ∈ taken, transition.event.1 = address → ∀ other, other ≠ address →
        transition.after other = transition.before other := by
  rw [storageMachine_family] at run
  refine ⟨?_, ?_⟩
  · have replayed := run.family_replay address
    rw [called] at replayed
    obtain ⟨last, driven, left⟩ := replay_request replayed
    obtain rfl := Option.some.inj (call.symm.trans driven)
    rw [left]
    exact handled_of_start.drive driven returns rejects
  · rintro transition member rfl other different
    exact run.family_others transition member other different

end Runs

namespace Sample

def asked : Storage :=
  Function.update Storage.fresh 2
    ⟨some (.otherCreating ⟨1, 2, 0, 5, 40, 5000, none, none⟩ true), none, []⟩

/-- Node 2 notifies too early; meanwhile node 1 fills the channel with node 3. -/
def notifiesEarly : List (Address × Input) :=
  [(2, .request .notifyChannelOpened), (3, .start (.fillChannel 7)),
    (2, .resume (.ok (.maybeChannelId none)))]

end Sample

/-- The notify is refused, and the entry goes on waiting for another one. -/
theorem rejected_request_leaves_no_trace_sample :
    ∃ state ∈ (storageMachine (Sample.crypto 1)).replay Sample.asked Sample.notifiesEarly,
      (state 3).entry = some (.new true) ∧
        (LeavesNoTrace (Sample.crypto 1) 2 .notifyChannelOpened (Sample.asked 2).entry
            (state 2).entry ∧
          ∀ transition ∈ (storageMachine (Sample.crypto 1)).trace Sample.asked Sample.notifiesEarly,
            transition.event.1 = 2 → ∀ other, other ≠ 2 →
              transition.after other = transition.before other) := by
  obtain ⟨state, reached, other⟩ :
      ∃ state ∈ (storageMachine (Sample.crypto 1)).replay Sample.asked Sample.notifiesEarly,
        (state 3).entry = some (.new true) := by
    decide +kernel
  refine ⟨state, reached, other, ?_⟩
  exact @rejected_request_leaves_no_trace _ _ _ _ _ _ [.ok (.maybeChannelId none)] _ _
    (Machine.run_of_replay reached) rfl rfl rfl (.failed _ _)

end Guac
