import Guac.Foundation.Machine
import Guac.Http.Submission

/-!
Owns the join of a submission function: the transaction it sends and the event it waits
for, in every order in which the node of the chain processes their requests, with the
transaction mined at any moment after it was accepted. The filter sees only what is mined
after it was installed.

The first poll of the join issues the requests for the filter, the gas price and the
transaction count; the one for the raw transaction follows the answers of the last two.
-/

set_option autoImplicit false

namespace Guac

open Foundation

/-- A joined submission, with what the filter has reported. -/
structure Watch where
  installed : Bool
  gasPrice : Option Uint256
  nonce : Option Nat
  sent : Option Transaction
  mined : Bool
  changes : List Log

/-- The requests of a submission as they are processed, and the block that mines its
transaction. -/
inductive WatchEvent where
  | newFilter
  | gasPrice (price : Uint256)
  | transactionCount (count : Nat)
  | sendRawTransaction
  | mine
  deriving DecidableEq

def WatchEvent.isRequest : WatchEvent → Bool
  | .mine => false
  | _ => true

/-- One step of a submission; `logs` are those of the block that mines its transaction. -/
def watchStep (submission : Submission) (logs : List Log) (watch : Watch) :
    WatchEvent → Option Watch
  | .newFilter => if watch.installed then none else some { watch with installed := true }
  | .gasPrice price =>
      match watch.gasPrice with
      | none => some { watch with gasPrice := some price }
      | some _ => none
  | .transactionCount count =>
      match watch.nonce with
      | none => some { watch with nonce := some count }
      | some _ => none
  | .sendRawTransaction =>
      match watch.gasPrice, watch.nonce, watch.sent with
      | some gasPrice, some nonce, none =>
          some { watch with sent := some (submission.call.transaction gasPrice nonce) }
      | _, _, _ => none
  | .mine =>
      if watch.sent.isSome && !watch.mined then
        let reported := if watch.installed then logs.filter submission.event.selects else []
        some { watch with mined := true, changes := watch.changes ++ reported }
      else none

def watchMachine (submission : Submission) (logs : List Log) : Machine Watch WatchEvent :=
  ⟨watchStep submission logs⟩

/-- The join before its first request is processed. -/
def Watch.idle : Watch := ⟨false, none, none, none, false, []⟩

/-- The transaction is mined while its filter is not installed. -/
def Watch.Missed (watch : Watch) : Prop := watch.mined = true ∧ watch.installed = false

instance (watch : Watch) : Decidable watch.Missed :=
  inferInstanceAs (Decidable (watch.mined = true ∧ watch.installed = false))

/-- What `join` resolves with: the first log of the filter, once the transaction is sent. -/
def Watch.joined (watch : Watch) : Option Log :=
  if watch.sent.isSome then watch.changes.head? else none

section Steps

variable {submission : Submission} {logs : List Log} {before after watch last : Watch}
  {event : WatchEvent} {events order : List WatchEvent}

/-- What has been processed, from the events so far. -/
structure Watch.Reached (events : List WatchEvent) (watch : Watch) : Prop where
  installed : watch.installed = decide (.newFilter ∈ events)
  sent : watch.sent.isSome = decide (.sendRawTransaction ∈ events)
  mined : watch.mined = events.any fun event => !event.isRequest
  sent_of_mined : watch.mined = true → watch.sent.isSome = true

theorem Watch.reached_idle : Watch.idle.Reached [] := ⟨rfl, rfl, rfl, nofun⟩

theorem Watch.Reached.step (reached : before.Reached events)
    (stepped : watchStep submission logs before event = some after) :
    after.Reached (events ++ [event]) := by
  obtain ⟨installed, sent, mined, sentOfMined⟩ := reached
  unfold watchStep at stepped
  split at stepped
  · split at stepped <;> cases stepped
    exact ⟨by simp, by simp [sent], by simp [mined, WatchEvent.isRequest], sentOfMined⟩
  · split at stepped <;> cases stepped
    exact ⟨by simp [installed], by simp [sent], by simp [mined, WatchEvent.isRequest],
      sentOfMined⟩
  · split at stepped <;> cases stepped
    exact ⟨by simp [installed], by simp [sent], by simp [mined, WatchEvent.isRequest],
      sentOfMined⟩
  · split at stepped <;> cases stepped
    exact ⟨by simp [installed], by simp, by simp [mined, WatchEvent.isRequest], fun _ => rfl⟩
  · split at stepped <;> cases stepped
    next enabled =>
      have isSent := (Bool.and_eq_true_iff.mp enabled).1
      exact ⟨by simp [installed], by simp [sent], by simp [WatchEvent.isRequest], fun _ => isSent⟩

theorem reached_of_replay
    (replayed : (watchMachine submission logs).replay .idle events = some watch) :
    watch.Reached events :=
  Machine.history_of_replay Watch.Reached Watch.reached_idle
    (fun _ _ _ _ reached stepped => reached.step stepped) replayed

/-- Nothing is reported before the transaction is mined, and nothing at all to a join that
missed its event: it polls without an end, and holds the `Guard` of its entry. -/
theorem Watch.Missed.unanswered {taken : List (Transition Watch WatchEvent)}
    (missed : watch.Missed) (reported : watch.changes = [])
    (run : (watchMachine submission logs).Run watch taken last) : last.joined = none := by
  have kept := run.invariant (fun watch => watch.mined = true ∧ watch.changes = [])
    ⟨missed.1, reported⟩ ?_
  · unfold Watch.joined
    rw [kept.2]
    split <;> rfl
  · rintro before event after ⟨mined, silent⟩ stepped
    change watchStep submission logs before event = some after at stepped
    unfold watchStep at stepped
    split at stepped
    case h_5 => simp [mined] at stepped
    all_goals
      split at stepped <;> cases stepped
      exact ⟨mined, silent⟩

/-- With the filter installed, the block that mines the transaction answers the join. -/
theorem answered_of_installed (installed : before.installed = true)
    (emitted : ∃ log ∈ logs, submission.event.selects log = true)
    (stepped : watchStep submission logs before .mine = some after) :
    ∃ log, after.joined = some log := by
  unfold watchStep at stepped
  simp only [installed, if_true] at stepped
  split at stepped <;> cases stepped
  next enabled =>
    obtain ⟨log, member, selected⟩ := emitted
    have some : log ∈ before.changes ++ logs.filter submission.event.selects :=
      List.mem_append_right _ (List.mem_filter.mpr ⟨member, selected⟩)
    unfold Watch.joined
    rw [if_pos (Bool.and_eq_true_iff.mp enabled).1]
    exact Option.isSome_iff_exists.mp (List.isSome_head?.mpr (List.ne_nil_of_mem some))

/-- In an order of its requests a submission cannot miss its event, whenever its transaction
is mined, exactly if the filter is installed before the raw transaction is accepted. -/
theorem event_never_missed_iff
    (processed : (watchMachine submission logs).replay .idle order = some last)
    (requests : ∀ event ∈ order, event.isRequest = true) :
    (∀ events watch, events.filter WatchEvent.isRequest <+: order →
        (watchMachine submission logs).replay .idle events = some watch → ¬ watch.Missed) ↔
      ∀ earlier later, order = earlier ++ .sendRawTransaction :: later →
        .newFilter ∈ earlier := by
  constructor
  · rintro never earlier later rfl
    by_contra late
    -- the transaction is mined as soon as it is accepted
    rw [Machine.replay_append] at processed
    obtain ⟨middle, first, second⟩ := Option.bind_eq_some_iff.mp processed
    obtain ⟨accepted, sends, -⟩ := Machine.replay_cons.mp second
    have accepts : watchStep submission logs middle .sendRawTransaction = some accepted := sends
    have reached := (reached_of_replay first).step accepts
    have isSent : accepted.sent.isSome = true := by simp [reached.sent]
    have earlierRequests : ∀ event ∈ earlier, event.isRequest = true := fun event member =>
      requests event (List.mem_append_left _ member)
    have notMined : accepted.mined = false := by
      rw [reached.mined, List.any_append, List.any_eq_false.mpr (by simpa using earlierRequests)]
      rfl
    have notInstalled : accepted.installed = false := by
      simp [reached.installed, late]
    have mines : watchStep submission logs accepted .mine =
        some { accepted with mined := true, changes := accepted.changes ++ [] } := by
      simp [watchStep, isSent, notMined, notInstalled]
    have replayed : (watchMachine submission logs).replay .idle
        (earlier ++ [.sendRawTransaction, .mine]) =
          some { accepted with mined := true, changes := accepted.changes ++ [] } := by
      rw [Machine.replay_append, first, Option.bind_some]
      exact Machine.replay_cons.mpr ⟨_, sends, Machine.replay_cons.mpr ⟨_, mines, rfl⟩⟩
    refine never _ _ ?_ replayed ⟨rfl, notInstalled⟩
    have requested : [WatchEvent.sendRawTransaction, .mine].filter WatchEvent.isRequest =
        [.sendRawTransaction] := rfl
    rw [List.filter_append, List.filter_eq_self.mpr earlierRequests, requested]
    exact ⟨later, by simp⟩
  · intro inTime events watch inside replayed missed
    obtain ⟨mined, notInstalled⟩ := missed
    have reached := reached_of_replay replayed
    have sends : WatchEvent.sendRawTransaction ∈ events.filter WatchEvent.isRequest := by
      have isSent := reached.sent_of_mined mined
      rw [reached.sent, decide_eq_true_iff] at isSent
      exact List.mem_filter.mpr ⟨isSent, rfl⟩
    obtain ⟨earlier, later, split⟩ := List.append_of_mem sends
    obtain ⟨rest, whole⟩ := inside
    have installs : WatchEvent.newFilter ∈ earlier :=
      inTime earlier (later ++ rest) (by rw [← whole, split, List.append_assoc, List.cons_append])
    have processed : WatchEvent.newFilter ∈ events := by
      have kept : WatchEvent.newFilter ∈ events.filter WatchEvent.isRequest := by
        rw [split]
        exact List.mem_append_left _ installs
      exact (List.mem_filter.mp kept).1
    rw [reached.installed, decide_eq_false_iff_not] at notInstalled
    exact notInstalled processed

end Steps

namespace Sample

def signedOpening : NewChannelTx :=
  let tx : NewChannelTx := ⟨1, 2, 10, 0, 41, 5000, none, none⟩
  let fingerprint := tx.fingerprint (Sample.crypto 1)
  { tx with
    signature0 := some ((Sample.crypto 1).ethSign fingerprint)
    signature1 := some ((Sample.crypto 2).ethSign fingerprint) }

def filterFirst : List WatchEvent :=
  [.gasPrice 1, .newFilter, .transactionCount 0, .sendRawTransaction]

end Sample

/-- With the filter in time, the opening is not missed, whatever its block emits. -/
theorem event_never_missed_iff_sample :
    ∃ submission,
      Sample.chainClient.depositThenNewChannel 10 Sample.signedOpening = .ok submission ∧
      ∀ logs events watch, events.filter WatchEvent.isRequest <+: Sample.filterFirst →
        (watchMachine submission logs).replay .idle events = some watch → ¬ watch.Missed := by
  refine ⟨_, rfl, fun logs => ?_⟩
  refine (@event_never_missed_iff _ logs _ Sample.filterFirst rfl (by decide)).mpr ?_
  rintro (_ | ⟨first, _ | ⟨second, rest⟩⟩) later split
  · cases split
  · cases split
  · simp only [Sample.filterFirst, List.cons_append, List.cons.injEq] at split
    obtain ⟨-, rfl, -⟩ := split
    simp

/-- With the filter last, the opening is mined before it, and its log is not reported. -/
theorem event_missed :
    ∃ submission log,
      Sample.chainClient.depositThenNewChannel 10 Sample.signedOpening = .ok submission ∧
      submission.event.selects log = true ∧
      ∃ watch ∈ (watchMachine submission [log]).replay .idle
          [.gasPrice 1, .transactionCount 0, .sendRawTransaction, .mine],
        watch.Missed := by
  refine ⟨_, ⟨99, [BitVec.ofNat 256 38, 1, 2], List.replicate 32 7⟩, rfl, ?_, ?_⟩
  · decide +kernel
  · exact ⟨_, rfl, rfl, rfl⟩

end Guac
