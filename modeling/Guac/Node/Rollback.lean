import Guac.Node.OneCall

/-!
Owns what a failed user operation leaves behind. Up to its submission to the
contract an operation has written nothing; with the counterparty's signature in
hand it writes `Creating` or `ReDrawing` and submits in the same poll, and no
error after that takes the entry back.
-/

set_option autoImplicit false

namespace Guac

open Foundation

/-- The call asks the contract to move money. -/
def Call.submits : Call → Bool
  | .chain (.depositThenNewChannel _ _) => true
  | .chain (.depositThenReDraw _ _) => true
  | .chain (.reDrawThenWithdraw _ _) => true
  | .chain .getCurrentBlock => false
  | .chain (.checkForOpen _ _) => false
  | .chain (.checkForReDraw _) => false
  | .peer _ => false

def Next.fault : Next → Option Fault
  | .resolved (.error fault) => some fault
  | .resolved (.ok _) => none
  | .suspended _ _ => none

/-- How far an operation is: before its submission, or from it on. Inbound requests
submit nothing. -/
inductive Phase where
  | before
  | submitted
  | handler
  deriving DecidableEq

def Closure.phase : Closure → Phase
  | .fillNewBlock _ _ => .before
  | .fillNewSignature _ _ _ => .before
  | .reDrawBlock _ _ _ _ _ => .before
  | .reDrawSignature _ _ _ _ _ _ => .before
  | .paymentReply _ _ => .before
  | .retryReply => .before
  | .fillNewDeposited _ _ _ => .submitted
  | .fillNewNotified _ _ _ _ => .submitted
  | .reDrawSubmitted _ _ _ => .submitted
  | .reDrawNotified _ _ _ => .submitted
  | .checkedOpen _ _ => .handler
  | .checkedReDraw _ _ => .handler

/-- The entry is in the state an operation submits from. -/
def marked : Option Counterparty → Bool
  | some (.creating _ _) => true
  | some (.reDrawing _ _) => true
  | _ => false

/-- The entry is the one of before; for an address that had none it may be a fresh
`New`. -/
def RolledBack (crypto : Crypto) (theirAddress : Address) (before after : Option Counterparty) :
    Prop :=
  after = before ∨
    before = none ∧ after = some (makeCounterpartyIfNone theirAddress crypto.ownAddress none)

/-- What a poll does from `entry` before the submission: it waits and has written
nothing, it submits, or it resolves, with the entry untouched if that is an error. -/
inductive Early (entry : Option Counterparty) : Poll → Prop
  | waits {signed : List SignedTx} {call : Call} {closure : Closure}
      (quiet : call.submits = false) (phase : closure.phase = .before) :
      Early entry ⟨entry, signed, .suspended call closure⟩
  | submits {after : Option Counterparty} {signed : List SignedTx} {call : Call}
      {closure : Closure} (submission : call.submits = true) (mark : marked after = true)
      (phase : closure.phase = .submitted) :
      Early entry ⟨after, signed, .suspended call closure⟩
  | failed {signed : List SignedTx} {fault : Fault} :
      Early entry ⟨entry, signed, .resolved (.error fault)⟩
  | succeeded {after : Option Counterparty} {signed : List SignedTx} {value : Value} :
      Early entry ⟨after, signed, .resolved (.ok value)⟩

/-- What a poll does from `entry` after the submission: an error leaves the entry. -/
inductive Late (entry : Option Counterparty) : Poll → Prop
  | waits {signed : List SignedTx} {call : Call} {closure : Closure}
      (phase : closure.phase = .submitted) :
      Late entry ⟨entry, signed, .suspended call closure⟩
  | failed {signed : List SignedTx} {fault : Fault} :
      Late entry ⟨entry, signed, .resolved (.error fault)⟩
  | succeeded {after : Option Counterparty} {signed : List SignedTx} {value : Value} :
      Late entry ⟨after, signed, .resolved (.ok value)⟩

section Polls

variable {crypto : Crypto} {theirAddress : Address} {entry : Option Counterparty}

theorem late_of_resume {closure : Closure} {answer : Result Value} {next : Poll}
    (phase : closure.phase = .submitted)
    (resumed : closure.resume crypto theirAddress entry answer = some next) :
    Late entry next := by
  cases move_of_resume resumed with
  | failed => exact .failed
  | deposited => exact .waits rfl
  | openedAsProposer => exact .succeeded
  | submitted => exact .waits rfl
  | reDrawnAsProposer => exact .succeeded
  | _ => cases phase

theorem submits_reDraw (kind : ReDrawKind) (amount : Uint256) (tx : ReDrawTx) :
    (Call.chain (reDrawSubmission kind amount tx)).submits = true := by
  cases kind <;> rfl

theorem early_of_resume {closure : Closure} {answer : Result Value} {next : Poll}
    (phase : closure.phase = .before)
    (resumed : closure.resume crypto theirAddress entry answer = some next) :
    Early entry next := by
  cases move_of_resume resumed with
  | failed => exact .failed
  | proposeNew => exact .waits rfl rfl
  | signNew => exact .submits rfl rfl rfl
  | proposeReDraw => exact .waits rfl rfl
  | signReDraw => exact .submits (submits_reDraw _ _ _) rfl rfl
  | savePayment => exact .succeeded
  | retryPayment => exact .waits rfl rfl
  | retryAccepted => exact .succeeded
  | _ => cases phase

theorem early_of_start (op : UserOp) :
    (∃ kept, RolledBack crypto theirAddress entry kept ∧
      Early kept (op.start crypto theirAddress entry)) ∧
      (marked entry = false ∨
        ∃ result, (op.start crypto theirAddress entry).next = .resolved result) := by
  generalize started : op.start crypto theirAddress entry = poll
  have move : Move crypto theirAddress entry none (.start op) poll :=
    started ▸ move_of_start op entry
  generalize shape : Input.start op = input at move
  generalize idle : (none : Option Closure) = closure at move
  cases move with
  | refused kept => exact ⟨⟨_, kept, .failed⟩, .inr ⟨_, rfl⟩⟩
  | fillNew found =>
      cases entry with
      | none => exact ⟨⟨_, .inr ⟨rfl, congrArg some found.symm⟩, .waits rfl rfl⟩, .inl rfl⟩
      | some counterparty =>
          obtain rfl : counterparty = _ := found
          exact ⟨⟨_, .inl rfl, .waits rfl rfl⟩, .inl rfl⟩
  | startReDraw => exact ⟨⟨_, .inl rfl, .waits rfl rfl⟩, .inl rfl⟩
  | pay => exact ⟨⟨_, .inl rfl, .waits rfl rfl⟩, .inl rfl⟩
  | accrue => exact ⟨⟨_, .inl rfl, .succeeded⟩, .inr ⟨_, rfl⟩⟩
  | acceptChannel => cases shape
  | acceptReDraw => cases shape
  | checkOpen => cases shape
  | checkReDraw => cases shape
  | stalePayment => cases shape
  | acceptPayment => cases shape
  | _ => cases idle

theorem Late.resign {poll : Poll} (late : Late entry poll) (signed : List SignedTx) :
    Late entry { poll with signed } := by
  cases late with
  | waits phase => exact .waits phase
  | failed => exact .failed
  | succeeded => exact .succeeded

theorem Early.resign {poll : Poll} (early : Early entry poll) (signed : List SignedTx) :
    Early entry { poll with signed } := by
  cases early with
  | waits quiet phase => exact .waits quiet phase
  | submits submission mark phase => exact .submits submission mark phase
  | failed => exact .failed
  | succeeded => exact .succeeded

/-- A call that fails after its submission leaves the entry of the submission. -/
theorem Late.drive {poll last : Poll} {answers : List (Result Value)} {fault : Fault}
    (late : Late entry poll) (driven : poll.drive crypto theirAddress answers = some last)
    (failed : last.next.fault = some fault) : last.entry = entry := by
  induction answers generalizing poll with
  | nil =>
      obtain rfl := Option.some.inj driven
      cases late with
      | waits => rfl
      | failed => rfl
      | succeeded => cases failed
  | cons answer rest inductionHypothesis =>
      cases late with
      | waits phase =>
          obtain ⟨next, resumed, driven⟩ := Poll.drive_suspended rfl driven
          exact inductionHypothesis ((late_of_resume phase resumed).resign _) driven
      | failed => cases driven
      | succeeded => cases driven

/-- A call that fails leaves the entry as long as no submission was answered, and a
marked one afterwards. -/
theorem Early.drive {poll last : Poll} {answers : List (Result Value)} {fault : Fault}
    (early : Early entry poll) (driven : poll.drive crypto theirAddress answers = some last)
    (failed : last.next.fault = some fault) :
    (∀ answered ∈ poll.answered crypto theirAddress answers, answered.1.submits = false) ∧
        last.entry = entry ∨
      (∃ answered ∈ poll.answered crypto theirAddress answers, answered.1.submits = true) ∧
        marked last.entry = true := by
  induction answers generalizing poll with
  | nil =>
      obtain rfl := Option.some.inj driven
      cases early with
      | waits => cases failed
      | submits => cases failed
      | failed => exact .inl ⟨by simp [Poll.answered], rfl⟩
      | succeeded => cases failed
  | cons answer rest inductionHypothesis =>
      cases early with
      | waits quiet phase =>
          obtain ⟨next, resumed, driven⟩ := Poll.drive_suspended rfl driven
          have onward := inductionHypothesis ((early_of_resume phase resumed).resign _) driven
          simpa only [Poll.answered, resumed, List.forall_mem_cons, List.exists_mem_cons_iff, quiet,
            true_and, Bool.false_eq_true, false_or] using onward
      | submits submission mark phase =>
          obtain ⟨next, resumed, driven⟩ := Poll.drive_suspended rfl driven
          have left := ((late_of_resume phase resumed).resign _).drive driven failed
          refine .inr ⟨⟨_, List.mem_cons_self, submission⟩, ?_⟩
          rw [left]
          exact mark
      | failed => cases driven
      | succeeded => cases driven

theorem RolledBack.unmarked {before after : Option Counterparty}
    (rolledBack : RolledBack crypto theirAddress before after) (unmarked : marked before = false) :
    marked after = false := by
  rcases rolledBack with rfl | ⟨-, rfl⟩
  · exact unmarked
  · rfl

/-- A failed operation rolls back exactly if none of its submissions was answered:
every error before the submission leaves the entry, and none after it does. -/
theorem failed_call_rolls_back_iff {op : UserOp} {answers : List (Result Value)} {poll : Poll}
    {fault : Fault} (called : op.call crypto theirAddress entry answers = some poll)
    (failed : poll.next.fault = some fault) :
    RolledBack crypto theirAddress entry poll.entry ↔
      ∀ answered ∈ op.answered crypto theirAddress entry answers,
        answered.1.submits = false := by
  obtain ⟨⟨kept, rolledBack, early⟩, unmarked⟩ :=
    @early_of_start crypto theirAddress entry op
  rcases early.drive called failed with ⟨quiet, left⟩ | ⟨⟨answered, member, submits⟩, mark⟩
  · rw [left]
    exact ⟨fun _ => quiet, fun _ => rolledBack⟩
  · constructor
    · intro restored
      rcases unmarked with unmarked | ⟨result, resolved⟩
      · cases mark.symm.trans (restored.unmarked unmarked)
      · rw [Poll.answered_resolved resolved] at member
        cases member
    · intro quiet
      cases submits.symm.trans (quiet answered member)

end Polls

namespace Sample

/-- Node 1 fills a new entry with 10; the peer signs, and the chain answers the
submission. -/
def fillAnswers (submission : Result Value) : List (Result Value) :=
  let tx := proposedChannel (Sample.crypto 1) 2 true 10 41
  [.ok (.block 1),
    .ok (.signature ((Sample.crypto 2).ethSign (tx.fingerprint (Sample.crypto 2)))), submission]

end Sample

/-- The block query fails, and the entry is a fresh `New`. -/
theorem failed_call_rolls_back_iff_sample :
    ∃ poll ∈ (UserOp.fillChannel 10).call (Sample.crypto 1) 2 none [.error (.failure "offline")],
      RolledBack (Sample.crypto 1) 2 none poll.entry := by
  obtain ⟨poll, called, failed⟩ :
      ∃ poll, (UserOp.fillChannel 10).call (Sample.crypto 1) 2 none
          [.error (.failure "offline")] = some poll ∧
        poll.next.fault = some (.failure "offline") := ⟨_, rfl, rfl⟩
  exact ⟨poll, called, (failed_call_rolls_back_iff called failed).mpr (by decide +kernel)⟩

/-- The submission fails, and the entry stays in `Creating`. -/
theorem failed_submission_not_rolled_back :
    ∃ poll ∈ (UserOp.fillChannel 10).call (Sample.crypto 1) 2 none
        (Sample.fillAnswers (.error (.failure "offline"))),
      poll.next.fault = some (.failure "offline") ∧
        ¬ RolledBack (Sample.crypto 1) 2 none poll.entry := by
  obtain ⟨poll, called, failed, mark⟩ :
      ∃ poll ∈ (UserOp.fillChannel 10).call (Sample.crypto 1) 2 none
          (Sample.fillAnswers (.error (.failure "offline"))),
        poll.next.fault = some (.failure "offline") ∧ marked poll.entry = true := by
    decide +kernel
  exact ⟨poll, called, failed, fun restored => Bool.false_ne_true
    ((restored.unmarked rfl).symm.trans mark)⟩

end Guac
