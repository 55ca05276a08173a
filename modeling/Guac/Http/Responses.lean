import Guac.Http.Transport
import Guac.Node.Rejection
import Guac.Node.StateMachine

/-!
Owns what the status of a response tells the node that posted the request. `200` comes with
the value of the handler, which the client reads back; with any other status, and without a
response, the entry is as it was and nothing was signed. `403` is sent for what a request
says, and only where the entry is in the state the request is for. No handler ends with the
error that `409` stands for.

What `recover` and the client of the chain fail with belongs to their libraries: it is no
`GuacError`.
-/

set_option autoImplicit false

namespace Guac

open Foundation

/-- The state of an entry that a request is for. -/
def Request.state : Request → Variant
  | .proposeChannel _ => .new
  | .proposeReDraw _ => .opened
  | .notifyChannelOpened => .otherCreating
  | .notifyReDraw => .otherReDrawing
  | .receivePayment _ => .opened

/-- The errors a handler can end with. -/
inductive Refuses (request : Request) (entry : Option Counterparty) : Fault → Prop
  | forbidden (message : String) (ready : variantOf entry = request.state) :
      Refuses request entry (.guac (.forbidden message))
  | wrongState (action : String) (current : Counterparty) (correct : String) :
      Refuses request entry (.guac (.wrongState action current correct))
  | missing (message : String) : Refuses request entry (.guac (.error message))
  | failure (message : String) : Refuses request entry (.failure message)
  | panic : Refuses request entry .panic

/-- A fault of a library. -/
def Fault.foreign : Fault → Bool
  | .guac _ => false
  | .failure _ => true
  | .panic => true

theorem Refuses.of_foreign {request : Request} {entry : Option Counterparty} {fault : Fault}
    (foreign : fault.foreign = true) : Refuses request entry fault := by
  cases fault with
  | guac => cases foreign
  | failure message => exact .failure message
  | panic => exact .panic

/-! ### What the checks fail with -/

/-- A computation fails as `Forbidden` only. -/
def Forbids (checks : Result Unit) : Prop :=
  ∀ fault, checks = .error fault → ∃ message, fault = .guac (.forbidden message)

theorem forbids_forbidden (check : Bool) (label : String) : Forbids (forbidden check label) := by
  intro fault failed
  cases check with
  | false => exact ⟨label, (Except.error.inj failed).symm⟩
  | true => cases failed

theorem Forbids.bind {first : Result Unit} {next : Unit → Result Unit} (forbids : Forbids first)
    (rest : Forbids (next ())) : Forbids (first >>= next) := by
  intro fault failed
  rcases bind_eq_error.mp failed with failed | ⟨⟨⟩, -, failed⟩
  · exact forbids fault failed
  · exact rest fault failed

section Handlers

variable {crypto : Crypto} {fromAddress : Address} {entry : Option Counterparty}
  {request : Request} {fault : Fault}

theorem forbids_checkNewChannelTx (iAm0 : Bool) (tx : NewChannelTx) :
    Forbids (checkNewChannelTx crypto fromAddress iAm0 tx) := by
  have parties : Forbids (checkParties crypto fromAddress iAm0 tx) := by
    cases iAm0 with
    | false | true => exact (forbids_forbidden _ _).bind (forbids_forbidden _ _)
  exact parties.bind ((forbids_forbidden _ _).bind (forbids_forbidden _ _))

theorem forbids_checkReDrawTx (channel : Channel) (tx : ReDrawTx) :
    Forbids (checkReDrawTx channel tx) := by
  refine (forbids_forbidden _ _).bind ((forbids_forbidden _ _).bind
    ((forbids_forbidden _ _).bind ((forbids_forbidden _ _).bind ?_)))
  cases channel.iAm0 with
  | false | true => exact forbids_forbidden _ _

theorem refuses_of_found {body : Counterparty → Poll}
    (failed : (withCounterparty entry body).next = .resolved (.error fault))
    (refuses : ∀ counterparty, entry = some counterparty →
      (body counterparty).next = .resolved (.error fault) → Refuses request entry fault) :
    Refuses request entry fault := by
  cases entry with
  | none =>
      obtain rfl := Except.error.inj (Next.resolved.inj failed)
      exact .missing _
  | some counterparty => exact refuses counterparty rfl failed

theorem refuses_of_update {channel : Channel} {updateTx : UpdateTx}
    (recovers : ∀ signature data fault,
      crypto.primitives.recover signature data = .error fault → fault.foreign = true)
    (failed : receiveUpdate crypto fromAddress channel updateTx = .error fault) :
    Refuses (.receivePayment updateTx) (some (.opened channel)) fault := by
  unfold receiveUpdate at failed
  rcases bind_eq_error.mp failed with failed | ⟨signature, -, failed⟩
  · cases slot : theirSignature channel.iAm0 updateTx with
    | none =>
        rw [slot] at failed
        obtain rfl := Except.error.inj failed
        exact .forbidden _ rfl
    | some signature =>
        rw [slot] at failed
        cases failed
  rcases bind_eq_error.mp failed with failed | ⟨recoveredAddress, -, failed⟩
  · exact .of_foreign (recovers _ _ _ failed)
  split at failed
  · obtain rfl := Except.error.inj failed
    exact .forbidden _ rfl
  · rcases Channel.receivePayment_error failed with rfl | ⟨rfl, -⟩ | ⟨rfl, -⟩
    · exact .panic
    · exact .forbidden _ rfl
    · exact .forbidden _ rfl

theorem refuses_of_start
    (recovers : ∀ signature data fault,
      crypto.primitives.recover signature data = .error fault → fault.foreign = true)
    (failed : (request.start crypto fromAddress entry).next = .resolved (.error fault)) :
    Refuses request entry fault := by
  cases request with
  | proposeChannel newChannelTx =>
      simp only [Request.start, proposeChannel] at failed
      split at failed
      next iAm0 found =>
        split at failed
        next checked =>
          obtain rfl := Except.error.inj (Next.resolved.inj failed)
          obtain ⟨message, rfl⟩ := forbids_checkNewChannelTx _ _ _ checked
          exact .forbidden message (variantOf_new found)
        next => cases failed
      next =>
        obtain rfl := Except.error.inj (Next.resolved.inj failed)
        exact .wrongState _ _ _
  | proposeReDraw reDrawTx =>
      refine refuses_of_found failed ?_
      rintro counterparty rfl failed
      cases counterparty with
      | opened channel =>
          simp only at failed
          split at failed
          next checked =>
            obtain rfl := Except.error.inj (Next.resolved.inj failed)
            obtain ⟨message, rfl⟩ := forbids_checkReDrawTx _ _ _ checked
            exact .forbidden message rfl
          next => cases failed
      | new | creating | otherCreating | reDrawing | otherReDrawing =>
          obtain rfl := Except.error.inj (Next.resolved.inj failed)
          exact .wrongState _ _ _
  | notifyChannelOpened =>
      refine refuses_of_found failed ?_
      rintro counterparty rfl failed
      cases counterparty with
      | otherCreating => cases failed
      | new | creating | reDrawing | otherReDrawing | opened =>
          obtain rfl := Except.error.inj (Next.resolved.inj failed)
          exact .wrongState _ _ _
  | notifyReDraw =>
      refine refuses_of_found failed ?_
      rintro counterparty rfl failed
      cases counterparty with
      | otherReDrawing => cases failed
      | new | creating | otherCreating | reDrawing | opened =>
          obtain rfl := Except.error.inj (Next.resolved.inj failed)
          exact .wrongState _ _ _
  | receivePayment updateTx =>
      refine refuses_of_found failed ?_
      rintro counterparty rfl failed
      cases counterparty with
      | opened channel =>
          simp only at failed
          split at failed
          next update =>
            obtain rfl := Except.error.inj (Next.resolved.inj failed)
            exact refuses_of_update recovers update
          next => cases failed
      | new | creating | otherCreating | reDrawing | otherReDrawing =>
          obtain rfl := Except.error.inj (Next.resolved.inj failed)
          exact .wrongState _ _ _

theorem refuses_of_resume {closure : Closure} {answer : Result Value} {poll : Poll}
    (phase : closure.phase = .handler)
    (chain : ∀ fault, answer = .error fault → fault.foreign = true)
    (resumed : closure.resume crypto fromAddress entry answer = some poll)
    (failed : poll.next = .resolved (.error fault)) : Refuses request entry fault := by
  cases answer with
  | error said =>
      obtain rfl := Option.some.inj resumed
      obtain rfl := Except.error.inj (Next.resolved.inj failed)
      exact .of_foreign (chain _ rfl)
  | ok value =>
      cases closure with
      | checkedOpen iAm0 tx =>
          cases value with
          | maybeChannelId found =>
              obtain rfl := Option.some.inj resumed
              cases found with
              | none =>
                  obtain rfl := Except.error.inj (Next.resolved.inj failed)
                  exact .failure _
              | some channelId => cases failed
          | _ => cases resumed
      | checkedReDraw tx channel =>
          cases value with
          | unit =>
              obtain rfl := Option.some.inj resumed
              cases failed
          | _ => cases resumed
      | _ => cases phase

theorem Move.signed_of_error {closure : Option Closure} {input : Input} {poll : Poll}
    (move : Move crypto fromAddress entry closure input poll)
    (failed : poll.next = .resolved (.error fault)) : poll.signed = [] := by
  cases move with
  | refused | failed => rfl
  | _ => cases failed

end Handlers

/-! ### What a response tells -/

def statusOf {τ : Type} (response : Option (HttpResponse τ)) : Option Nat :=
  response.map HttpResponse.status

section Polls

variable {crypto : Crypto} {theirAddress : Address} {node : Node} {input : Input}
  {request : Request} {poll : Poll} {fault : Fault}

theorem Coherent.returns {value : Value}
    (coherent : Coherent crypto theirAddress node)
    (polled : node.poll crypto theirAddress input = some (.handler request, poll))
    (resolved : poll.next = .resolved (.ok value)) : request.Returns value := by
  obtain ⟨entry, closure, -, -, move, same, resumes⟩ := coherent.moved polled
  cases move with
  | acceptChannel | acceptReDraw | stalePayment | acceptPayment =>
      obtain rfl := Operation.handler.inj (Option.some.inj same)
      obtain rfl := Except.ok.inj (Next.resolved.inj resolved)
      constructor
  | openedAsResponder | reDrawnAsResponder =>
      obtain ⟨_, _, -, -, held⟩ := resumes _ rfl
      obtain rfl := Except.ok.inj (Next.resolved.inj resolved)
      cases held
      constructor
  | openedAsProposer | reDrawnAsProposer | savePayment | retryAccepted =>
      obtain ⟨_, _, -, -, held⟩ := resumes _ rfl
      cases held
  | accrue => cases Option.some.inj same
  | refused | failed | fillNew | proposeNew | signNew | deposited | startReDraw | proposeReDraw
  | signReDraw | submitted | pay | retryPayment | checkOpen | checkReDraw => cases resolved

/-- A handler that fails leaves no trace, and fails with an error of a handler. -/
theorem Coherent.refuses (coherent : Coherent crypto theirAddress node)
    (recovers : ∀ signature data fault,
      crypto.primitives.recover signature data = .error fault → fault.foreign = true)
    (chain : ∀ fault, input = .resume (.error fault) → fault.foreign = true)
    (polled : node.poll crypto theirAddress input = some (.handler request, poll))
    (failed : poll.next = .resolved (.error fault)) :
    LeavesNoTrace crypto theirAddress request node.entry poll.entry ∧
      Refuses request node.entry fault := by
  cases input with
  | start op => cases (poll_start polled).2.1
  | request received =>
      obtain ⟨-, same, rfl⟩ := poll_request polled
      obtain rfl := Operation.handler.inj same
      refine ⟨?_, refuses_of_start recovers failed⟩
      have handled : Handled crypto theirAddress request node.entry
          (request.start crypto theirAddress node.entry) := handled_of_start
      generalize request.start crypto theirAddress node.entry = poll at handled failed
      cases handled with
      | refused kept => exact kept
      | answered | waits => cases failed
  | resume answer =>
      obtain ⟨⟨operation, call, closure⟩, holds, rfl, resumed⟩ := poll_resume polled
      obtain ⟨counterparty, entry, held⟩ := coherent.held _ holds
      have phase : closure.phase = .handler := by cases held <;> rfl
      refine ⟨?_, refuses_of_resume phase (fun _ same => chain _ (by rw [same])) resumed failed⟩
      have handled := @handled_of_resume crypto theirAddress request node.entry closure answer
        poll phase resumed
      cases handled with
      | refused kept => exact kept
      | answered | waits => cases failed

end Polls

section Runs

variable {τ : Type} {json : Json τ} {crypto : Crypto} {state : Storage}
  {taken : List (Transition Storage (Address × Input))}

theorem status_of_refuses {request : Request} {entry : Option Counterparty} {fault : Fault}
    (refuses : Refuses request entry fault) :
    statusOf (json.respond (.error fault)) = some 403 ∧ variantOf entry = request.state ∨
      statusOf (json.respond (.error fault)) = some 500 ∨
        json.respond (.error fault) = none := by
  cases refuses with
  | forbidden message ready => exact .inl ⟨rfl, ready⟩
  | wrongState | missing | failure => exact .inr (.inl rfl)
  | panic => exact .inr (.inr rfl)

/-- What the response of every handler tells, in every run of a node and for every body
with numbers below `2^256`: with `200` the client reads the value of the handler; else the
handler left no trace and signed nothing, and the status is `403`, for an entry in the
state of the request, or `500`, or there is no response. -/
theorem response_tells
    (recovers : ∀ signature data fault,
      crypto.primitives.recover signature data = .error fault → fault.foreign = true)
    (run : (storageMachine crypto).Run .fresh taken state)
    (chain : ∀ transition ∈ taken, ∀ fault,
      transition.event.2 = .resume (.error fault) → fault.foreign = true) :
    ∀ transition ∈ taken, ∀ request result,
      returned crypto transition = some (.handler request, result) →
        (statusOf (json.respond result) = some 200 ∧ ∃ value, result = .ok value ∧
            json.receive request (json.respond result) = .ok value) ∨
          (LeavesNoTrace crypto transition.event.1 request
              (transition.before transition.event.1).entry
              (transition.after transition.event.1).entry ∧
            (transition.after transition.event.1).signed =
              (transition.before transition.event.1).signed ∧
            (statusOf (json.respond result) = some 403 ∧
                variantOf (transition.before transition.event.1).entry = request.state ∨
              statusOf (json.respond result) = some 500 ∨ json.respond result = none)) := by
  rintro transition member request result returns
  have coherent := Storage.coherent_before run transition member transition.event.1
  obtain ⟨node, moved, changed⟩ := storageStep_eq_some.mp (run.step_of_mem transition member)
  obtain ⟨poll, polled, resolved⟩ := returned_eq_some.mp returns
  obtain ⟨_, _, same, rfl⟩ := step_eq_some.mp moved
  obtain ⟨rfl, rfl⟩ := Prod.mk.inj (Option.some.inj (polled.symm.trans same))
  cases result with
  | ok value =>
      have item := coherent.returns polled resolved
      refine .inl ⟨?_, value, rfl, receive_ok item⟩
      cases item <;> rfl
  | error fault =>
      obtain ⟨trace, refuses⟩ :=
        coherent.refuses recovers (chain transition member) polled resolved
      have nothing := (move_of_poll polled).signed_of_error resolved
      refine .inr ⟨?_, ?_, status_of_refuses refuses⟩
      · rw [changed, Function.update_self]
        exact trace
      · rw [changed, Function.update_self, Node.after, nothing, List.append_nil]

end Runs

namespace Sample

/-- A channel that gives node 1 something. -/
def generousProposal : Request := .proposeChannel ⟨1, 2, 3, 5, 40, 5000, none, none⟩

/-- The transition in which node 1, without any entry, receives it from node 2. -/
def receivesGenerous : Transition Storage (Address × Input) where
  before := .fresh
  event := (2, .request generousProposal)
  after := Function.update Storage.fresh 2 ⟨some (.new true), none, []⟩

end Sample

/-- Node 1 answers with `403`, and is left with an entry in `New`. -/
theorem response_tells_generous :
    ∃ result, returned (Sample.crypto 1) Sample.receivesGenerous =
        some (.handler Sample.generousProposal, result) ∧
      statusOf (Sample.json.respond result) = some 403 ∧
        LeavesNoTrace (Sample.crypto 1) 2 Sample.generousProposal none (some (.new true)) := by
  have recovers : ∀ signature data fault,
      Sample.recover signature data = .error fault → fault.foreign = true := by
    intro signature data fault failed
    unfold Sample.recover at failed
    split at failed
    · cases failed
    · obtain rfl := Except.error.inj failed
      rfl
  have stepped : storageStep (Sample.crypto 1) .fresh Sample.receivesGenerous.event =
      some Sample.receivesGenerous.after := rfl
  have run : (storageMachine (Sample.crypto 1)).Run .fresh [Sample.receivesGenerous]
      Sample.receivesGenerous.after := .snoc .nil stepped
  have chain : ∀ transition ∈ [Sample.receivesGenerous], ∀ fault,
      transition.event.2 = .resume (.error fault) → fault.foreign = true := by
    intro transition member fault answered
    obtain rfl := List.mem_singleton.mp member
    cases answered
  obtain ⟨result, returns, status⟩ : ∃ result, returned (Sample.crypto 1)
      Sample.receivesGenerous = some (.handler Sample.generousProposal, result) ∧
        statusOf (Sample.json.respond result) = some 403 := ⟨_, rfl, rfl⟩
  refine ⟨result, returns, status, ?_⟩
  rcases @response_tells _ Sample.json _ _ _ recovers run chain _ (List.mem_singleton.mpr rfl)
    _ _ returns with ⟨success, -⟩ | ⟨trace, -⟩
  · cases status.symm.trans success
  · exact trace

end Guac
