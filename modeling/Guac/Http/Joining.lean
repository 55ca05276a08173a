import Mathlib.Data.List.TakeWhile
import Guac.Foundation.Simulation
import Guac.Http.EventWatch

/-!
Owns the futures of a submission function as they are polled: `get_event` over
`eth_get_filter_changes`, `send_raw_transaction`, and their `join`, with every request that
can fail. A request is posted, processed by the node of the chain, and answered; the client
may see an error instead of the answer, whether or not the request was processed, and the
first error ends the join. A request that was posted may be processed after that.

The filter of the chain keeps what it has not handed out yet, and is there until it is asked
to go: a node that times filters out by itself is not modelled. The count and the gas price
have no effect on the chain and are answered in one step. `EventWatch` is the same submission
with nothing that fails and one block.
-/

set_option autoImplicit false

namespace Guac

open Foundation

/-- A request that is posted, and the reply to it once it is processed. -/
inductive Exchange (ρ : Type) where
  | posted
  | replied (reply : ρ)
  deriving DecidableEq

/-- The `get_event` future: the request it waits for, or the log it resolved with. -/
inductive Waiting where
  | installing (exchange : Exchange Unit)
  | polling (exchange : Exchange (List Log))
  | uninstalling (log : Log) (exchange : Exchange Bool)
  | ready (log : Log)
  deriving DecidableEq

/-- The `send_raw_transaction` future. -/
inductive Sending where
  | asking (gasPrice : Option Uint256) (nonce : Option Nat)
  | sending (transaction : Transaction) (exchange : Exchange Unit)
  | sent
  deriving DecidableEq

/-- The join of the two, what it resolved with, and the node of the chain: the logs its
filter has yet to hand out, and the transaction it accepted. -/
structure Joining where
  waiting : Waiting
  sending : Sending
  result : Option (Result Log)
  filter : Option (List Log)
  accepted : Option Transaction

/-- What the node of the chain processes, what the client is answered, what fails, and the
blocks. -/
inductive JoinEvent where
  | install
  | collect
  | uninstall (removed : Bool)
  | accept
  | eventReply
  | sendReply
  | gasPrice (price : Uint256)
  | transactionCount (count : Nat)
  | eventFails (text : String)
  | sendFails (text : String)
  | block (logs : List Log)

/-- The first poll of a join posts the requests for the filter, the gas price and the
count. -/
def Joining.start : Joining := ⟨.installing .posted, .asking none none, none, none, none⟩

section Steps

variable (submission : Submission)

/-- `send_raw_transaction` with the answers it has: it signs and posts once it has both. -/
def asked (gasPrice : Option Uint256) (nonce : Option Nat) : Sending :=
  match gasPrice, nonce with
  | some gasPrice, some nonce => .sending (submission.call.transaction gasPrice nonce) .posted
  | _, _ => .asking gasPrice nonce

/-- The join resolves once both futures have. -/
def Joining.join (joining : Joining) : Joining :=
  match joining.waiting, joining.sending with
  | .ready log, .sent => { joining with result := some (.ok log) }
  | _, _ => joining

/-- The first error ends the join. -/
def Joining.fail (joining : Joining) (text : String) : Joining :=
  { joining with result := some (.error (.failure text)) }

def Joining.eventReply (joining : Joining) : Option Joining :=
  match joining.waiting with
  | .installing (.replied ()) => some { joining with waiting := .polling .posted }
  | .polling (.replied []) => some { joining with waiting := .polling .posted }
  | .polling (.replied (log :: _)) =>
      some { joining with waiting := .uninstalling log .posted }
  | .uninstalling log (.replied true) => some { joining with waiting := .ready log }.join
  | .uninstalling _ (.replied false) => some (joining.fail "Unable to properly uninstall filter")
  | _ => none

/-- What the node of the chain does. It works on posted requests, also on those nobody
waits for any more. -/
def Joining.chainStep (joining : Joining) : JoinEvent → Option Joining
  | .install =>
      match joining.waiting with
      | .installing .posted =>
          some { joining with waiting := .installing (.replied ()), filter := some [] }
      | _ => none
  | .collect =>
      match joining.waiting, joining.filter with
      | .polling .posted, some logs =>
          some { joining with waiting := .polling (.replied logs), filter := some [] }
      | _, _ => none
  | .uninstall removed =>
      match joining.waiting with
      | .uninstalling log .posted =>
          some { joining with waiting := .uninstalling log (.replied removed), filter := none }
      | _ => none
  | .accept =>
      match joining.sending with
      | .sending transaction .posted =>
          some { joining with
            sending := .sending transaction (.replied ())
            accepted := some transaction }
      | _ => none
  | .block logs =>
      some { joining with
        filter := joining.filter.map fun pending =>
          pending ++ logs.filter submission.event.selects }
  | _ => none

/-- What a join that is not resolved does with an answer or an error. -/
def Joining.clientStep (joining : Joining) : JoinEvent → Option Joining
  | .eventReply => joining.eventReply
  | .sendReply =>
      match joining.sending with
      | .sending _ (.replied ()) => some { joining with sending := .sent }.join
      | _ => none
  | .gasPrice price =>
      match joining.sending with
      | .asking none nonce => some { joining with sending := asked submission (some price) nonce }
      | _ => none
  | .transactionCount count =>
      match joining.sending with
      | .asking gasPrice none =>
          some { joining with sending := asked submission gasPrice (some count) }
      | _ => none
  | .eventFails text =>
      match joining.waiting with
      | .ready _ => none
      | _ => some (joining.fail text)
  | .sendFails text =>
      match joining.sending with
      | .sent => none
      | _ => some (joining.fail text)
  | _ => none

/-- Whether an event is one of the node of the chain. -/
def JoinEvent.ofChain : JoinEvent → Bool
  | .install => true
  | .collect => true
  | .uninstall _ => true
  | .accept => true
  | .block _ => true
  | _ => false

def Joining.step (joining : Joining) (event : JoinEvent) : Option Joining :=
  if event.ofChain then joining.chainStep submission event
  else
    match joining.result with
    | none => joining.clientStep submission event
    | some _ => none

def joinMachine : Machine Joining JoinEvent := ⟨Joining.step submission⟩

end Steps

def JoinEvent.logs : JoinEvent → List Log
  | .block logs => logs
  | _ => []

def JoinEvent.installs : JoinEvent → Bool
  | .install => true
  | _ => false

/-- What the blocks report to a filter, from its installation on. -/
def reported (submission : Submission) (events : List JoinEvent) : List Log :=
  ((events.dropWhile fun event => !event.installs).flatMap JoinEvent.logs).filter
    submission.event.selects

namespace Sample

/-- What the contract emits for the deposit of `signedOpening`. -/
def openingLog : Log := ⟨99, [BitVec.ofNat 256 38, 1, 2], List.replicate 32 7⟩

/-- The filter is installed, the transaction accepted and mined, its event collected. -/
def confirms : List JoinEvent :=
  [.gasPrice 1, .install, .eventReply, .transactionCount 0, .accept, .sendReply,
    .block [openingLog], .collect, .eventReply, .uninstall true, .eventReply]

/-- A poll of the filter times out while the transaction is on its way. -/
def timesOut : List JoinEvent :=
  [.gasPrice 1, .install, .eventReply, .transactionCount 0, .eventFails "timeout"]

end Sample

/-! ### What a join has reached -/

/-- How far `get_event` is, against what the blocks reported since its filter was installed:
before it finds a log, all of it is still in the filter or on its way. -/
inductive Follows (reported : List Log) : Bool → Option (List Log) → Waiting → Prop
  | installing : Follows reported false none (.installing .posted)
  | installed : Follows reported true (some reported) (.installing (.replied ()))
  | polling : Follows reported true (some reported) (.polling .posted)
  | polled {logs rest : List Log} (split : reported = logs ++ rest) :
      Follows reported true (some rest) (.polling (.replied logs))
  | found {log : Log} {pending : List Log} (first : reported.head? = some log) :
      Follows reported true (some pending) (.uninstalling log .posted)
  | uninstalled {log : Log} {removed : Bool} (first : reported.head? = some log) :
      Follows reported true none (.uninstalling log (.replied removed))
  | ready {log : Log} (first : reported.head? = some log) :
      Follows reported true none (.ready log)

/-- The gas price and the count of a transaction are answers to its questions. -/
structure Answered (events : List JoinEvent) (gasPrice : Uint256) (nonce : Nat) : Prop where
  gasPrice : .gasPrice gasPrice ∈ events
  nonce : .transactionCount nonce ∈ events

/-- How far `send_raw_transaction` is, against what it was answered and what the node of the
chain accepted. -/
inductive Sends (submission : Submission) (events : List JoinEvent) :
    Option Transaction → Sending → Prop
  | asking {gasPrice : Option Uint256} {nonce : Option Nat}
      (prices : ∀ price ∈ gasPrice, .gasPrice price ∈ events)
      (counts : ∀ count ∈ nonce, .transactionCount count ∈ events) :
      Sends submission events none (.asking gasPrice nonce)
  | posted {gasPrice : Uint256} {nonce : Nat} (answered : Answered events gasPrice nonce) :
      Sends submission events none
        (.sending (submission.call.transaction gasPrice nonce) .posted)
  | accepted {gasPrice : Uint256} {nonce : Nat} (answered : Answered events gasPrice nonce) :
      Sends submission events (some (submission.call.transaction gasPrice nonce))
        (.sending (submission.call.transaction gasPrice nonce) (.replied ()))
  | sent {gasPrice : Uint256} {nonce : Nat} (answered : Answered events gasPrice nonce) :
      Sends submission events (some (submission.call.transaction gasPrice nonce)) .sent

/-- What a join has reached after some events. -/
structure Joining.Reached (submission : Submission) (events : List JoinEvent)
    (joining : Joining) : Prop where
  event : Follows (reported submission events) (events.any JoinEvent.installs) joining.filter
    joining.waiting
  sends : Sends submission events joining.accepted joining.sending
  resolved : ∀ log, joining.result = some (.ok log) →
    joining.waiting = .ready log ∧ joining.sending = .sent

section Runs

variable {submission : Submission} {events : List JoinEvent} {event : JoinEvent}
  {before after joining last : Joining}

theorem reported_of_installed (installed : events.any JoinEvent.installs = true) :
    reported submission (events ++ [event]) =
      reported submission events ++ event.logs.filter submission.event.selects := by
  obtain ⟨earlier, member, installs⟩ := List.any_eq_true.mp installed
  have kept : (events.dropWhile fun event => !event.installs).isEmpty = false := by
    rw [List.isEmpty_eq_false_iff]
    intro dropped
    have missing := List.dropWhile_eq_nil_iff.mp dropped earlier member
    rw [installs] at missing
    cases missing
  unfold reported
  rw [List.dropWhile_append, kept]
  simp

theorem reported_of_not_installed (missing : events.any JoinEvent.installs = false) :
    reported submission events = [] ∧ reported submission (events ++ [event]) = [] := by
  have dropped : (events.dropWhile fun event => !event.installs) = [] := by
    rw [List.dropWhile_eq_nil_iff]
    intro event member
    simpa using List.any_eq_false.mp missing event member
  unfold reported
  constructor
  · rw [dropped]
    rfl
  · rw [List.dropWhile_append, dropped]
    cases event <;> rfl

theorem Follows.block {reported logs : List Log} {installed : Bool} {filter : Option (List Log)}
    {waiting : Waiting} (follows : Follows reported installed filter waiting)
    (isInstalled : installed = true) :
    Follows (reported ++ logs) true (filter.map fun pending => pending ++ logs) waiting := by
  cases follows with
  | installing => cases isInstalled
  | installed => exact .installed
  | polling => exact .polling
  | polled split => exact .polled (by rw [split, List.append_assoc])
  | found first => exact .found (by rw [List.head?_append, first, Option.some_or])
  | uninstalled first => exact .uninstalled (by rw [List.head?_append, first, Option.some_or])
  | ready first => exact .ready (by rw [List.head?_append, first, Option.some_or])

theorem Joining.reached_start : Joining.start.Reached submission [] where
  event := .installing
  sends := .asking nofun nofun
  resolved := nofun

theorem Sends.mono {accepted : Option Transaction} {sending : Sending}
    (sends : Sends submission events accepted sending) :
    Sends submission (events ++ [event]) accepted sending := by
  have kept {earlier : JoinEvent} (member : earlier ∈ events) : earlier ∈ events ++ [event] :=
    List.mem_append_left _ member
  cases sends with
  | asking prices counts =>
      exact .asking (fun price known => kept (prices price known))
        fun count known => kept (counts count known)
  | posted answered => exact .posted ⟨kept answered.gasPrice, kept answered.nonce⟩
  | accepted answered => exact .accepted ⟨kept answered.gasPrice, kept answered.nonce⟩
  | sent answered => exact .sent ⟨kept answered.gasPrice, kept answered.nonce⟩

theorem reported_of_silent (silent : event.logs = []) (other : event.installs = false) :
    reported submission (events ++ [event]) = reported submission events ∧
      (events ++ [event]).any JoinEvent.installs = events.any JoinEvent.installs := by
  refine ⟨?_, by simp [other]⟩
  cases installed : events.any JoinEvent.installs with
  | true => simp [reported_of_installed installed, silent]
  | false =>
      obtain ⟨before, after⟩ := @reported_of_not_installed submission events event installed
      rw [before, after]

/-- A step that reports nothing needs to be followed only as it moves the future. -/
theorem Joining.Reached.silent (reached : before.Reached submission events)
    (silent : event.logs = []) (other : event.installs = false)
    (follows : ∀ {reported : List Log} {installed : Bool},
      Follows reported installed before.filter before.waiting →
        Follows reported installed after.filter after.waiting)
    (sends : Sends submission (events ++ [event]) before.accepted before.sending →
      Sends submission (events ++ [event]) after.accepted after.sending)
    (resolved : ∀ log, after.result = some (.ok log) →
      after.waiting = .ready log ∧ after.sending = .sent) :
    after.Reached submission (events ++ [event]) := by
  obtain ⟨same, installed⟩ := @reported_of_silent submission events event silent other
  refine ⟨?_, sends reached.sends.mono, resolved⟩
  rw [same, installed]
  exact follows reached.event

theorem Joining.join_eq (joining : Joining) :
    joining.join.waiting = joining.waiting ∧ joining.join.sending = joining.sending ∧
      joining.join.filter = joining.filter ∧ joining.join.accepted = joining.accepted := by
  unfold Joining.join
  split <;> exact ⟨rfl, rfl, rfl, rfl⟩

theorem Joining.join_resolved (unresolved : joining.result = none) (log : Log)
    (resolves : joining.join.result = some (.ok log)) :
    joining.join.waiting = .ready log ∧ joining.join.sending = .sent := by
  unfold Joining.join at resolves ⊢
  split at resolves
  next ready sent =>
    obtain rfl := Except.ok.inj (Option.some.inj resolves)
    simp only [ready, sent, and_self]
  next =>
    rw [unresolved] at resolves
    cases resolves

theorem Joining.Reached.eventReply (reached : before.Reached submission events)
    (unresolved : before.result = none) (replied : before.eventReply = some after) :
    after.Reached submission (events ++ [.eventReply]) := by
  have failed {text : String} : (before.fail text).Reached submission (events ++ [.eventReply]) :=
    reached.silent rfl rfl id id nofun
  unfold Joining.eventReply at replied
  split at replied
  next waiting =>
    cases replied
    refine reached.silent rfl rfl ?_ id (by simp [unresolved])
    intro _ _ follows
    rw [waiting] at follows
    generalize before.filter = filter at follows
    cases follows
    exact .polling
  next waiting =>
    cases replied
    refine reached.silent rfl rfl ?_ id (by simp [unresolved])
    intro _ _ follows
    rw [waiting] at follows
    generalize before.filter = filter at follows
    cases follows with
    | polled split =>
        subst split
        exact .polling
  next log rest waiting =>
    cases replied
    refine reached.silent rfl rfl ?_ id (by simp [unresolved])
    intro _ _ follows
    rw [waiting] at follows
    generalize before.filter = filter at follows
    cases follows with
    | polled split => exact .found (by rw [split]; rfl)
  next log waiting =>
    cases replied
    obtain ⟨sameWaiting, sameSending, sameFilter, sameAccepted⟩ :=
      Joining.join_eq { before with waiting := .ready log }
    refine reached.silent rfl rfl ?_ ?_ (Joining.join_resolved unresolved)
    · intro _ _ follows
      rw [sameWaiting, sameFilter]
      rw [waiting] at follows
      change Follows _ _ before.filter _
      generalize before.filter = filter at follows
      cases follows with
      | uninstalled first => exact .ready first
    · rw [sameSending, sameAccepted]
      exact id
  next => cases replied; exact failed
  next => cases replied

/-- With the answers it has, a sender that has accepted nothing yet asks on or posts. -/
theorem Sends.asked {gasPrice : Option Uint256} {nonce : Option Nat}
    (prices : ∀ price ∈ gasPrice, .gasPrice price ∈ events)
    (counts : ∀ count ∈ nonce, .transactionCount count ∈ events) :
    Sends submission events none (Guac.asked submission gasPrice nonce) := by
  cases gasPrice with
  | none => exact .asking prices counts
  | some price =>
      cases nonce with
      | none => exact .asking prices counts
      | some count => exact .posted ⟨prices price rfl, counts count rfl⟩

theorem Joining.Reached.chainStep (reached : before.Reached submission events)
    (stepped : before.chainStep submission event = some after) :
    after.Reached submission (events ++ [event]) := by
  cases event with
  | install =>
      simp only [Joining.chainStep] at stepped
      split at stepped <;> cases stepped
      next waiting =>
        refine ⟨?_, reached.sends.mono, ?_⟩
        · have follows := reached.event
          rw [waiting] at follows
          generalize installed : events.any JoinEvent.installs = flag at follows
          generalize before.filter = filter at follows
          cases follows
          have nothing := (@reported_of_not_installed submission events .install installed).2
          have isInstalled : (events ++ [JoinEvent.install]).any JoinEvent.installs = true := by
            rw [List.any_append]
            exact Bool.or_true _
          rw [isInstalled, nothing]
          exact .installed
        · intro log resolves
          cases waiting.symm.trans (reached.resolved log resolves).1
  | collect =>
      simp only [Joining.chainStep] at stepped
      split at stepped <;> cases stepped
      next logs waiting pending =>
        refine reached.silent rfl rfl ?_ id ?_
        · intro _ _ follows
          rw [waiting, pending] at follows
          cases follows
          exact .polled (by simp)
        · intro log resolves
          cases waiting.symm.trans (reached.resolved log resolves).1
  | uninstall removed =>
      simp only [Joining.chainStep] at stepped
      split at stepped <;> cases stepped
      next log waiting =>
        refine reached.silent rfl rfl ?_ id ?_
        · intro _ _ follows
          rw [waiting] at follows
          generalize before.filter = filter at follows
          cases follows with
          | found first => exact .uninstalled first
        · intro log resolves
          cases waiting.symm.trans (reached.resolved log resolves).1
  | accept =>
      simp only [Joining.chainStep] at stepped
      split at stepped <;> cases stepped
      next transaction sending =>
        refine reached.silent rfl rfl id ?_ ?_
        · intro sends
          rw [sending] at sends
          generalize before.accepted = accepted at sends
          cases sends with
          | posted answered => exact .accepted answered
        · intro log resolves
          cases sending.symm.trans (reached.resolved log resolves).2
  | block logs =>
      obtain rfl := Option.some.inj stepped
      refine ⟨?_, reached.sends.mono, reached.resolved⟩
      have follows := reached.event
      cases installed : events.any JoinEvent.installs with
      | true =>
          rw [installed] at follows
          rw [reported_of_installed installed, List.any_append, installed, Bool.true_or]
          exact follows.block rfl
      | false =>
          obtain ⟨nothing, still⟩ := @reported_of_not_installed submission events (.block logs)
            installed
          rw [installed, nothing] at follows
          rw [still, List.any_append, installed]
          generalize before.filter = filter at follows
          generalize before.waiting = waiting at follows
          cases follows
          exact .installing
  | eventReply => cases stepped
  | sendReply => cases stepped
  | gasPrice price => cases stepped
  | transactionCount count => cases stepped
  | eventFails text => cases stepped
  | sendFails text => cases stepped

theorem Joining.Reached.clientStep (reached : before.Reached submission events)
    (unresolved : before.result = none)
    (stepped : before.clientStep submission event = some after) :
    after.Reached submission (events ++ [event]) := by
  cases event with
  | eventReply => exact reached.eventReply unresolved stepped
  | sendReply =>
      simp only [Joining.clientStep] at stepped
      split at stepped <;> cases stepped
      next transaction sending =>
        obtain ⟨sameWaiting, sameSending, sameFilter, sameAccepted⟩ :=
          Joining.join_eq { before with sending := .sent }
        refine reached.silent rfl rfl ?_ ?_ (Joining.join_resolved unresolved)
        · rw [sameWaiting, sameFilter]
          exact id
        · intro sends
          rw [sameSending, sameAccepted]
          rw [sending] at sends
          generalize before.accepted = accepted at sends
          cases sends with
          | accepted answered => exact .sent answered
  | gasPrice price =>
      simp only [Joining.clientStep] at stepped
      split at stepped <;> cases stepped
      next nonce sending =>
        refine reached.silent rfl rfl id ?_ (by simp [unresolved])
        intro sends
        rw [sending] at sends
        generalize before.accepted = accepted at sends
        cases sends with
        | asking _ counts => exact .asked (by simp) counts
  | transactionCount count =>
      simp only [Joining.clientStep] at stepped
      split at stepped <;> cases stepped
      next gasPrice sending =>
        refine reached.silent rfl rfl id ?_ (by simp [unresolved])
        intro sends
        rw [sending] at sends
        generalize before.accepted = accepted at sends
        cases sends with
        | asking prices _ => exact .asked prices (by simp)
  | eventFails text =>
      simp only [Joining.clientStep] at stepped
      split at stepped <;> cases stepped
      exact reached.silent rfl rfl id id nofun
  | sendFails text =>
      simp only [Joining.clientStep] at stepped
      split at stepped <;> cases stepped
      exact reached.silent rfl rfl id id nofun
  | install => cases stepped
  | collect => cases stepped
  | uninstall removed => cases stepped
  | accept => cases stepped
  | block logs => cases stepped

theorem Joining.Reached.step (reached : before.Reached submission events)
    (stepped : before.step submission event = some after) :
    after.Reached submission (events ++ [event]) := by
  unfold Joining.step at stepped
  split at stepped
  next => exact reached.chainStep stepped
  next =>
    split at stepped
    next unresolved => exact reached.clientStep unresolved stepped
    next => cases stepped

theorem Joining.reached_of_replay
    (replayed : (joinMachine submission).replay .start events = some joining) :
    joining.Reached submission events :=
  Machine.history_of_replay (Joining.Reached submission) Joining.reached_start
    (fun _ _ _ _ reached stepped => reached.step stepped) replayed

/-- A submission that succeeds: the node of the chain has accepted its transaction, with a
gas price and a count that it answered, the log is the first one that the filter selects of
all that was emitted since it was installed, and the filter is gone. -/
theorem submission_confirmed {log : Log}
    (replayed : (joinMachine submission).replay .start events = some joining)
    (succeeded : joining.result = some (.ok log)) :
    (∃ gasPrice nonce, .gasPrice gasPrice ∈ events ∧ .transactionCount nonce ∈ events ∧
        joining.accepted = some (submission.call.transaction gasPrice nonce)) ∧
      (reported submission events).head? = some log ∧ joining.filter = none := by
  obtain ⟨follows, sends, resolved⟩ := Joining.reached_of_replay replayed
  obtain ⟨ready, sent⟩ := resolved log succeeded
  rw [ready] at follows
  rw [sent] at sends
  generalize events.any JoinEvent.installs = flag at follows
  generalize joining.filter = filter at follows
  generalize joining.accepted = accepted at sends
  cases follows with
  | ready first =>
      cases sends with
      | sent answered => exact ⟨⟨_, _, answered.gasPrice, answered.nonce, rfl⟩, first, rfl⟩

/-- The deposit that opens channel 7 is confirmed by the log of its own block. -/
theorem submission_confirmed_sample :
    ∃ submission,
      Sample.chainClient.depositThenNewChannel 10 Sample.signedOpening = .ok submission ∧
      ∃ joining ∈ (joinMachine submission).replay .start Sample.confirms,
        (reported submission Sample.confirms).head? = some Sample.openingLog ∧
          joining.filter = none := by
  refine ⟨_, rfl, _, rfl, ?_⟩
  exact (@submission_confirmed _ Sample.confirms _ Sample.openingLog rfl rfl).2

/-! ### What a failed submission leaves behind -/

theorem Joining.resolved_step {result : Result Log} (resolved : before.result = some result)
    (stepped : before.step submission event = some after) :
    before.chainStep submission event = some after := by
  unfold Joining.step at stepped
  split at stepped
  · exact stepped
  · rw [resolved] at stepped
    cases stepped

/-- The chain goes on after the end of a join: it changes nothing of the result, the filter
stays unless its removal was asked for, and no transaction is accepted that was not posted. -/
theorem Joining.afterwards {result : Result Log} (resolved : before.result = some result)
    (stepped : before.step submission event = some after) :
    after.result = some result ∧
      (before.filter.isSome → (∀ log, before.waiting ≠ .uninstalling log .posted) →
        after.filter.isSome ∧ ∀ log, after.waiting ≠ .uninstalling log .posted) ∧
      (before.accepted = none → (∀ transaction, before.sending ≠ .sending transaction .posted) →
        after.accepted = none ∧ ∀ transaction, after.sending ≠ .sending transaction .posted) := by
  have moved := Joining.resolved_step resolved stepped
  unfold Joining.chainStep at moved
  split at moved
  · split at moved <;> cases moved
    exact ⟨resolved, fun _ _ => ⟨rfl, nofun⟩, fun none unposted => ⟨none, unposted⟩⟩
  · split at moved <;> cases moved
    exact ⟨resolved, fun _ _ => ⟨rfl, nofun⟩, fun none unposted => ⟨none, unposted⟩⟩
  · split at moved <;> cases moved
    next asks =>
      exact ⟨resolved, fun _ unasked => absurd asks (unasked _),
        fun none unposted => ⟨none, unposted⟩⟩
  · split at moved <;> cases moved
    next posted =>
      exact ⟨resolved, fun installed unasked => ⟨installed, unasked⟩,
        fun _ unposted => absurd posted (unposted _)⟩
  · cases moved
    refine ⟨resolved, fun installed unasked => ⟨?_, unasked⟩,
      fun none unposted => ⟨none, unposted⟩⟩
    rw [Option.isSome_map]
    exact installed
  · cases moved

/-- A submission that fails stays failed, never asks for the removal of its filter unless it
has done so, and does not tell what becomes of its transaction: that is accepted in some
continuation exactly if it was accepted or is on its way. -/
theorem failed_submission {fault : Fault} (failed : joining.result = some (.error fault)) :
    (∀ later last, (joinMachine submission).replay joining later = some last →
      last.result = some (.error fault) ∧
        (joining.filter.isSome → (∀ log, joining.waiting ≠ .uninstalling log .posted) →
          last.filter.isSome)) ∧
      ((∃ later last, (joinMachine submission).replay joining later = some last ∧
          last.accepted.isSome) ↔
        joining.accepted.isSome ∨
          ∃ transaction, joining.sending = .sending transaction .posted) := by
  refine ⟨?_, ?_, ?_⟩
  · intro later last replayed
    have run := Machine.run_of_replay replayed
    have same := run.invariant (fun state => state.result = some (.error fault)) failed
      fun _ _ _ resolved stepped => (Joining.afterwards resolved stepped).1
    refine ⟨same, fun installed unasked => ?_⟩
    have kept := run.invariant
      (fun state => state.result = some (.error fault) ∧ state.filter.isSome = true ∧
        ∀ log, state.waiting ≠ .uninstalling log .posted)
      ⟨failed, installed, unasked⟩ ?_
    · exact kept.2.1
    · rintro before event after ⟨resolved, installed, unasked⟩ stepped
      obtain ⟨still, keeps, -⟩ := Joining.afterwards resolved stepped
      exact ⟨still, keeps installed unasked⟩
  · rintro ⟨later, last, replayed, accepted⟩
    by_contra never
    rw [not_or, not_exists, Option.not_isSome_iff_eq_none] at never
    have kept := (Machine.run_of_replay replayed).invariant
      (fun state => state.result = some (.error fault) ∧ state.accepted = none ∧
        ∀ transaction, state.sending ≠ .sending transaction .posted)
      ⟨failed, never⟩ ?_
    · rw [kept.2.1] at accepted
      cases accepted
    · rintro before event after ⟨resolved, none, unposted⟩ stepped
      obtain ⟨still, -, keeps⟩ := Joining.afterwards resolved stepped
      exact ⟨still, keeps none unposted⟩
  · rintro (accepted | ⟨transaction, posted⟩)
    · exact ⟨[], joining, rfl, accepted⟩
    · have accepts : joining.step submission .accept =
          some { joining with
            sending := .sending transaction (.replied ())
            accepted := some transaction } := by
        simp only [Joining.step, JoinEvent.ofChain, if_true, Joining.chainStep, posted]
      exact ⟨[.accept], _, Machine.replay_cons.mpr ⟨_, accepts, rfl⟩, rfl⟩

/-- After the timeout nothing removes the filter, and the deposit may still be accepted. -/
theorem failed_submission_sample :
    ∃ submission,
      Sample.chainClient.depositThenNewChannel 10 Sample.signedOpening = .ok submission ∧
      ∃ joining ∈ (joinMachine submission).replay .start Sample.timesOut,
        (∀ later last, (joinMachine submission).replay joining later = some last →
          last.filter.isSome) ∧
        ∃ later last, (joinMachine submission).replay joining later = some last ∧
          last.accepted.isSome := by
  refine ⟨_, rfl, _, rfl, ?_⟩
  obtain ⟨leaves, accepts⟩ :=
    @failed_submission _ ⟨.polling .posted, _, some (.error (.failure "timeout")), some [], none⟩
      _ rfl
  exact ⟨fun later last replayed => (leaves later last replayed).2 rfl nofun,
    accepts.mpr (.inr ⟨_, rfl⟩)⟩

/-! ### The submission in which nothing fails -/

/-- The steps a request or a block of `EventWatch` stands for. -/
def WatchEvent.joins (logs : List Log) : WatchEvent → List JoinEvent
  | .newFilter => [.install, .eventReply]
  | .gasPrice price => [.gasPrice price]
  | .transactionCount count => [.transactionCount count]
  | .sendRawTransaction => [.accept, .sendReply]
  | .mine => [.block logs]

/-- A watch as the join it is: what was reported is still in the filter. -/
def Watch.asJoining (submission : Submission) (watch : Watch) : Joining where
  waiting := if watch.installed then .polling .posted else .installing .posted
  sending := if watch.sent.isSome then .sent else asked submission watch.gasPrice watch.nonce
  result := none
  filter := if watch.installed then some watch.changes else none
  accepted := watch.sent

/-- The join of a watch that was reached. -/
structure Shows (submission : Submission) (joining : Joining) (watch : Watch) : Prop where
  same : joining = watch.asJoining submission
  silent : watch.installed = false → watch.changes = []
  answered : watch.sent.isSome = true → watch.gasPrice.isSome = true ∧ watch.nonce.isSome = true

theorem shows_start : Shows submission .start .idle := ⟨rfl, fun _ => rfl, nofun⟩

theorem Shows.unsent {watch : Watch} (shows : Shows submission joining watch)
    (unanswered : watch.gasPrice = none ∨ watch.nonce = none) : watch.sent = none := by
  rw [← Option.not_isSome_iff_eq_none]
  intro sent
  obtain ⟨priced, counted⟩ := shows.answered sent
  rcases unanswered with missing | missing
  · rw [missing] at priced
    cases priced
  · rw [missing] at counted
    cases counted

/-- Every step of a watch is made by the join. -/
theorem watch_lifting (logs : List Log) :
    Lifting (joinMachine submission) (watchMachine submission logs) (WatchEvent.joins logs)
      (Shows submission) := by
  intro joining watch after event shows stepped
  change watchStep submission logs watch event = some after at stepped
  have unsent := shows.unsent
  obtain ⟨rfl, silent, answered⟩ := shows
  refine ⟨after.asJoining submission, ?_, ?_⟩
  · cases event with
    | newFilter =>
        simp only [watchStep] at stepped
        split at stepped <;> cases stepped
        next missing =>
          have missing := Bool.eq_false_iff.mpr missing
          simp [WatchEvent.joins, Machine.replay, joinMachine, Joining.step, JoinEvent.ofChain,
            Joining.chainStep, Joining.clientStep, Joining.eventReply, Watch.asJoining, missing,
            silent missing]
    | gasPrice price =>
        simp only [watchStep] at stepped
        split at stepped <;> cases stepped
        next unanswered =>
          simp [WatchEvent.joins, Machine.replay, joinMachine, Joining.step, JoinEvent.ofChain,
            Joining.clientStep, Watch.asJoining, unsent (.inl unanswered), unanswered, asked]
    | transactionCount count =>
        simp only [watchStep] at stepped
        split at stepped <;> cases stepped
        next unanswered =>
          simp [WatchEvent.joins, Machine.replay, joinMachine, Joining.step, JoinEvent.ofChain,
            Joining.clientStep, Watch.asJoining, unsent (.inr unanswered), unanswered, asked]
    | sendRawTransaction =>
        simp only [watchStep] at stepped
        split at stepped <;> cases stepped
        next priced counted unsent =>
          cases installed : watch.installed <;>
            simp [WatchEvent.joins, Machine.replay, joinMachine, Joining.step,
              JoinEvent.ofChain, Joining.chainStep, Joining.clientStep, Joining.join,
              Watch.asJoining, unsent, priced, counted, asked, installed]
    | mine =>
        simp only [watchStep] at stepped
        split at stepped <;> cases stepped
        cases installed : watch.installed <;>
          simp [WatchEvent.joins, Machine.replay, joinMachine, Joining.step, JoinEvent.ofChain,
            Joining.chainStep, Watch.asJoining, installed]
  · refine ⟨rfl, ?_, ?_⟩
    all_goals
      unfold watchStep at stepped
      split at stepped <;> split at stepped <;> cases stepped
      all_goals simp_all

/-- What `EventWatch` calls the answer of a join is what its polls resolve with: once the
transaction is sent and a block has reported to the filter, the next poll finds the log,
and the join ends with it. -/
theorem watch_answers_join {logs : List Log} {requests : List WatchEvent} {watch : Watch}
    {log : Log} (replayed : (watchMachine submission logs).replay .idle requests = some watch)
    (answered : watch.joined = some log) :
    ∃ joining, (joinMachine submission).replay .start
        (requests.flatMap (WatchEvent.joins logs) ++
          [.collect, .eventReply, .uninstall true, .eventReply]) = some joining ∧
      joining.result = some (.ok log) := by
  obtain ⟨joining, replay, rfl, silent, -⟩ := (watch_lifting logs).replay shows_start replayed
  unfold Watch.joined at answered
  split at answered
  next sent =>
    obtain ⟨rest, changes⟩ := List.head?_eq_some_iff.mp answered
    have installed : watch.installed = true := by
      by_contra missing
      rw [silent (Bool.eq_false_iff.mpr missing)] at changes
      cases changes
    rw [Machine.replay_append, replay, Option.bind_some]
    refine ⟨⟨.ready log, .sent, some (.ok log), none, watch.sent⟩, ?_, rfl⟩
    simp [Machine.replay, joinMachine, Joining.step, JoinEvent.ofChain, Joining.chainStep,
      Joining.clientStep, Joining.eventReply, Joining.join, Watch.asJoining, sent, installed,
      changes]
  next => cases answered

/-- With the filter first, the deposit of channel 7 is found by the poll after its block. -/
theorem watch_answers_join_sample :
    ∃ submission,
      Sample.chainClient.depositThenNewChannel 10 Sample.signedOpening = .ok submission ∧
      ∃ joining, (joinMachine submission).replay .start
          ((Sample.filterFirst ++ [WatchEvent.mine]).flatMap
              (WatchEvent.joins [Sample.openingLog]) ++
            [.collect, .eventReply, .uninstall true, .eventReply]) = some joining ∧
        joining.result = some (.ok Sample.openingLog) := by
  refine ⟨_, rfl, ?_⟩
  exact @watch_answers_join _ [Sample.openingLog] (Sample.filterFirst ++ [WatchEvent.mine]) _ _
    rfl rfl

end Runs

end Guac
