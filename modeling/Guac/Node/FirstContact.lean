import Mathlib.Data.Fintype.Basic
import Guac.Node.Entry

/-!
Owns the first contact with a counterparty: any number of operations that look the entry
up, make it if there is none, and wait for its `Guard`, in every order of their storage
steps. An operation that looks the entry up while another one has found it missing ends the
run with one of them refused.

It does not own what an operation does once it holds the `Guard`: its polls are those of
an entry that exists.
-/

set_option autoImplicit false

namespace Guac

open Foundation

/-- The operations that make the counterparty if there is none. -/
inductive Opener where
  | fillChannel (amount : Uint256)
  | proposeChannel (newChannelTx : NewChannelTx)

def Opener.start (crypto : Crypto) (theirAddress : Address) (entry : Option Counterparty) :
    Opener → Poll
  | .fillChannel amount => Guac.fillChannel crypto theirAddress amount entry
  | .proposeChannel newChannelTx =>
      Guac.proposeChannel crypto theirAddress newChannelTx entry

def Opener.operation : Opener → Operation
  | .fillChannel amount => .user (.fillChannel amount)
  | .proposeChannel newChannelTx => .handler (.proposeChannel newChannelTx)

def Opener.input : Opener → Input
  | .fillChannel amount => .start (.fillChannel amount)
  | .proposeChannel newChannelTx => .request (.proposeChannel newChannelTx)

/-- How far an operation is. -/
inductive Stage where
  | idle
  /-- `get_counterparty` found no entry. -/
  | absent
  /-- `new_counterparty` inserted one. -/
  | inserted
  /-- `get_counterparty` found an entry, and its `Guard` may be held. -/
  | waiting
  | holding (closure : Closure)
  /-- It has held the `Guard` and returned. -/
  | finished (result : Result Value)
  /-- It failed without the `Guard`. -/
  | failed (fault : Fault)
  deriving DecidableEq

/-- The entry of one address, its `Guard`, and the operations that ask for it. -/
structure Contact (ι : Type*) where
  entry : Option Counterparty
  holder : Option ι
  stage : ι → Stage
  created : List Counterparty

/-- The storage steps of an operation, and the later polls of the one that holds the
`Guard`. -/
inductive ContactEvent (ι : Type*) where
  | getCounterparty (caller : ι)
  | newCounterparty (caller : ι)
  | lock (caller : ι)
  | resume (caller : ι) (answer : Result Value)
  deriving DecidableEq

section Definitions

variable {ι : Type*} [DecidableEq ι] (crypto : Crypto) (theirAddress : Address)
  (opener : ι → Opener)

def Contact.move (contact : Contact ι) (caller : ι) (stage : Stage) : Contact ι :=
  { contact with stage := Function.update contact.stage caller stage }

/-- `Storage::get_counterparty`, for the lookup of an operation and for the one after its
insertion. -/
def Contact.getCounterparty (contact : Contact ι) (caller : ι) : Option (Contact ι) :=
  match contact.stage caller, contact.entry with
  | .idle, none => some (contact.move caller .absent)
  | .idle, some _ => some (contact.move caller .waiting)
  | .inserted, none => some (contact.move caller (.failed .panic))
  | .inserted, some _ => some (contact.move caller .waiting)
  | _, _ => none

def Contact.insert (contact : Contact ι) (caller : ι) : Contact ι :=
  let counterparty := makeCounterpartyIfNone theirAddress crypto.ownAddress none
  { contact.move caller .inserted with
    entry := some counterparty
    created := contact.created ++ [counterparty] }

/-- `Storage::new_counterparty`. -/
def Contact.newCounterparty (contact : Contact ι) (caller : ι) : Option (Contact ι) :=
  match contact.stage caller, contact.entry with
  | .absent, none => some (contact.insert crypto theirAddress caller)
  | .absent, some _ =>
      some (contact.move caller (.failed (.failure "Counterparty already exists")))
  | _, _ => none

def Contact.after (contact : Contact ι) (caller : ι) (poll : Poll) : Contact ι :=
  match poll.next with
  | .resolved result =>
      { contact.move caller (.finished result) with entry := poll.entry, holder := none }
  | .suspended _ closure =>
      { contact.move caller (.holding closure) with entry := poll.entry, holder := some caller }

/-- The `Guard` of the entry goes to an operation that waits for it. -/
def Contact.lock (contact : Contact ι) (caller : ι) : Option (Contact ι) :=
  match contact.stage caller, contact.holder, contact.entry with
  | .waiting, none, some counterparty =>
      some (contact.after caller
        ((opener caller).start crypto theirAddress (some counterparty)))
  | _, _, _ => none

def Contact.resume (contact : Contact ι) (caller : ι) (answer : Result Value) :
    Option (Contact ι) :=
  match contact.stage caller with
  | .holding closure =>
      (closure.resume crypto theirAddress contact.entry answer).map (contact.after caller)
  | _ => none

def contactStep (contact : Contact ι) : ContactEvent ι → Option (Contact ι)
  | .getCounterparty caller => contact.getCounterparty caller
  | .newCounterparty caller => contact.newCounterparty crypto theirAddress caller
  | .lock caller => contact.lock crypto theirAddress opener caller
  | .resume caller answer => contact.resume crypto theirAddress caller answer

def contactMachine : Machine (Contact ι) (ContactEvent ι) :=
  ⟨contactStep crypto theirAddress opener⟩

def Contact.empty : Contact ι := ⟨none, none, fun _ => .idle, []⟩

end Definitions

section Updates

variable {ι : Type*} [DecidableEq ι] (contact : Contact ι) (caller other : ι) (stage : Stage)
  (poll : Poll)

@[simp] theorem Contact.move_stage :
    (contact.move caller stage).stage = Function.update contact.stage caller stage := rfl

@[simp] theorem Contact.after_entry : (contact.after caller poll).entry = poll.entry := by
  unfold Contact.after
  split <;> rfl

@[simp] theorem Contact.after_created :
    (contact.after caller poll).created = contact.created := by
  unfold Contact.after
  split <;> rfl

theorem Contact.after_stage :
    ∃ stage, (contact.after caller poll).stage = Function.update contact.stage caller stage ∧
      ((∃ result, stage = .finished result) ∨ ∃ closure, stage = .holding closure) := by
  unfold Contact.after
  split
  · exact ⟨_, rfl, .inl ⟨_, rfl⟩⟩
  · exact ⟨_, rfl, .inr ⟨_, rfl⟩⟩

end Updates

variable {ι : Type*} {contact : Contact ι}

/-- No operation is on its way. -/
def Contact.Settled (contact : Contact ι) : Prop :=
  ∀ caller, contact.stage caller = .idle ∨ (∃ result, contact.stage caller = .finished result) ∨
    ∃ fault, contact.stage caller = .failed fault

/-- The first contact as it should be: one entry is created, none is overwritten, and
every operation obtains the `Guard` of it. -/
structure Welcomes (taken : List (Transition (Contact ι) (ContactEvent ι)))
    (contact : Contact ι) : Prop where
  created : (∃ caller, contact.stage caller ≠ .idle) → contact.created.length = 1
  kept : ∀ transition ∈ taken, transition.before.entry ≠ none →
    transition.after.entry ≠ none ∧ transition.after.created = transition.before.created
  guarded : ∀ caller, contact.stage caller = .idle ∨
    ∃ result, contact.stage caller = .finished result

/-- An operation finds no entry while another one is about to create it. -/
def Races (contact : Contact ι) (event : ContactEvent ι) : Prop :=
  ∃ caller, event = .getCounterparty caller ∧ contact.stage caller = .idle ∧
    contact.entry = none ∧ ∃ other, contact.stage other = .absent

instance [Fintype ι] [DecidableEq ι] (event : ContactEvent ι) : Decidable (Races contact event) :=
  inferInstanceAs (Decidable (∃ caller, event = .getCounterparty caller ∧
    contact.stage caller = .idle ∧ contact.entry = none ∧
      ∃ other, contact.stage other = .absent))

/-- The invariant of the runs without a race: at most one operation is about to create
the entry, and none is once there is one. -/
structure Serial (contact : Contact ι) : Prop where
  missing : contact.entry = none → contact.created = [] ∧
    ∀ caller, contact.stage caller = .idle ∨ contact.stage caller = .absent
  alone : contact.entry = none → ∀ first second, contact.stage first = .absent →
    contact.stage second = .absent → first = second
  present : contact.entry ≠ none → contact.created.length = 1 ∧
    ∀ caller, contact.stage caller ≠ .absent
  unfailed : ∀ caller fault, contact.stage caller ≠ .failed fault

theorem serial_empty : Serial (Contact.empty : Contact ι) where
  missing _ := ⟨rfl, fun _ => .inl rfl⟩
  alone _ _ _ absent := by cases absent
  present exists' := absurd rfl exists'
  unfailed _ _ same := by cases same

/-- An operation that neither failed nor is about to create an entry. -/
def Stage.OnTrack (stage : Stage) : Prop :=
  stage ≠ .absent ∧ ∀ fault, stage ≠ .failed fault

theorem Serial.onTrack (serial : Serial contact) (present : contact.entry ≠ none) (caller : ι) :
    (contact.stage caller).OnTrack :=
  ⟨(serial.present present).2 caller, serial.unfailed caller⟩

theorem serial_of_present (present : contact.entry ≠ none) (one : contact.created.length = 1)
    (onTrack : ∀ caller, (contact.stage caller).OnTrack) : Serial contact where
  missing missing := absurd missing present
  alone missing := absurd missing present
  present _ := ⟨one, fun caller => (onTrack caller).1⟩
  unfailed caller := (onTrack caller).2

theorem onTrack_update [DecidableEq ι] {stages : ι → Stage} {caller : ι} {stage : Stage}
    (others : ∀ other, other ≠ caller → (stages other).OnTrack) (new : stage.OnTrack) :
    ∀ other, (Function.update stages caller stage other).OnTrack :=
  (Function.forall_update_iff _ fun _ stage => Stage.OnTrack stage).mpr ⟨new, others⟩

/-- One of two operations will be refused. -/
def Doomed (contact : Contact ι) : Prop :=
  (contact.entry = none ∧ ∃ first second, first ≠ second ∧ contact.stage first = .absent ∧
      contact.stage second = .absent) ∨
    contact.entry ≠ none ∧ ∃ caller, contact.stage caller = .absent ∨
      ∃ fault, contact.stage caller = .failed fault

theorem Doomed.settled (doomed : Doomed contact) (settled : contact.Settled) :
    ∃ caller fault, contact.stage caller = .failed fault := by
  have notAbsent : ∀ caller, contact.stage caller ≠ .absent := by
    intro caller absent
    rcases settled caller with idle | ⟨result, finished⟩ | ⟨fault, failed⟩
    · cases absent.symm.trans idle
    · cases absent.symm.trans finished
    · cases absent.symm.trans failed
  rcases doomed with ⟨-, first, -, -, absent, -⟩ | ⟨-, caller, absent | ⟨fault, failed⟩⟩
  · exact absurd absent (notAbsent first)
  · exact absurd absent (notAbsent caller)
  · exact ⟨caller, fault, failed⟩

section Moves

variable (crypto : Crypto) (theirAddress : Address) (opener : ι → Opener) (contact : Contact ι)
  (caller : ι)

/-- A poll of an operation: the first one, with the `Guard` it waited for, or a later one. -/
inductive GuardPoll : ContactEvent ι → Poll → Prop
  | lock {counterparty : Counterparty} (was : contact.stage caller = .waiting)
      (free : contact.holder = none) (found : contact.entry = some counterparty) :
      GuardPoll (.lock caller) ((opener caller).start crypto theirAddress (some counterparty))
  | resume {closure : Closure} {answer : Result Value} {poll : Poll}
      (was : contact.stage caller = .holding closure)
      (resumed : closure.resume crypto theirAddress contact.entry answer = some poll) :
      GuardPoll (.resume caller answer) poll

/-- What a step does: the operation that moves, where it was, and what it leaves. -/
inductive Moves [DecidableEq ι] : ContactEvent ι → Contact ι → Prop
  | missed (was : contact.stage caller = .idle) (missing : contact.entry = none) :
      Moves (.getCounterparty caller) (contact.move caller .absent)
  | found (was : contact.stage caller = .idle ∨ contact.stage caller = .inserted)
      (present : contact.entry ≠ none) :
      Moves (.getCounterparty caller) (contact.move caller .waiting)
  | lost (was : contact.stage caller = .inserted) (missing : contact.entry = none) :
      Moves (.getCounterparty caller) (contact.move caller (.failed .panic))
  | inserts (was : contact.stage caller = .absent) (missing : contact.entry = none) :
      Moves (.newCounterparty caller) (contact.insert crypto theirAddress caller)
  | refused (was : contact.stage caller = .absent) (present : contact.entry ≠ none) :
      Moves (.newCounterparty caller)
        (contact.move caller (.failed (.failure "Counterparty already exists")))
  | polls {event : ContactEvent ι} {poll : Poll}
      (turn : GuardPoll crypto theirAddress opener contact caller event poll) :
      Moves event (contact.after caller poll)

end Moves

section Polls

variable {crypto : Crypto} {theirAddress : Address} {opener : ι → Opener}

theorem entry_of_move {counterparty : Counterparty} {closure : Option Closure} {input : Input}
    {poll : Poll}
    (move : Move crypto theirAddress (some counterparty) closure input poll) :
    poll.entry ≠ none := by
  generalize found : some counterparty = entry at move
  cases move with
  | refused kept =>
      rcases kept with rfl | ⟨rfl, rfl⟩
      · exact found ▸ Option.some_ne_none _
      · cases found
  | failed | proposeNew | deposited | proposeReDraw | submitted | retryPayment
  | retryAccepted => exact found ▸ Option.some_ne_none counterparty
  | _ => exact Option.some_ne_none _

theorem entry_of_resume {closure : Closure} {answer : Result Value} {poll : Poll}
    {entry : Option Counterparty}
    (resumed : closure.resume crypto theirAddress entry answer = some poll) :
    entry ≠ none → poll.entry ≠ none := by
  cases entry with
  | none => exact fun missing => absurd rfl missing
  | some counterparty => exact fun _ => entry_of_move (move_of_resume resumed)

theorem entry_of_start {counterparty : Counterparty} (opener : Opener) :
    (opener.start crypto theirAddress (some counterparty)).entry ≠ none := by
  cases opener with
  | fillChannel amount => exact entry_of_move (move_of_start (.fillChannel amount) _)
  | proposeChannel newChannelTx =>
      have polled : Node.poll crypto theirAddress ⟨some counterparty, none, []⟩
          (.request (.proposeChannel newChannelTx)) =
        some (.handler (.proposeChannel newChannelTx),
          Guac.proposeChannel crypto theirAddress newChannelTx (some counterparty)) := rfl
      exact entry_of_move (move_of_poll polled)

variable {caller : ι} {event : ContactEvent ι} {poll : Poll}
  (turn : GuardPoll crypto theirAddress opener contact caller event poll)

include turn

theorem GuardPoll.was :
    contact.stage caller = .waiting ∨ ∃ closure, contact.stage caller = .holding closure := by
  cases turn with
  | lock was => exact .inl was
  | resume was => exact .inr ⟨_, was⟩

theorem GuardPoll.keeps (present : contact.entry ≠ none) : poll.entry ≠ none := by
  cases turn with
  | lock => exact entry_of_start _
  | resume _ resumed => exact entry_of_resume resumed present

end Polls

section Steps

variable [DecidableEq ι] {crypto : Crypto} {theirAddress : Address} {opener : ι → Opener}
  {before after : Contact ι} {event : ContactEvent ι}

theorem moves_of_step (stepped : contactStep crypto theirAddress opener before event = some after) :
    ∃ caller, Moves crypto theirAddress opener before caller event after := by
  cases event with
  | getCounterparty caller =>
      refine ⟨caller, ?_⟩
      change before.getCounterparty caller = some after at stepped
      unfold Contact.getCounterparty at stepped
      split at stepped <;> cases stepped
      next was missing => exact .missed was missing
      next was present => exact .found (.inl was) (present ▸ Option.some_ne_none _)
      next was missing => exact .lost was missing
      next was present => exact .found (.inr was) (present ▸ Option.some_ne_none _)
  | newCounterparty caller =>
      refine ⟨caller, ?_⟩
      change before.newCounterparty crypto theirAddress caller = some after at stepped
      unfold Contact.newCounterparty at stepped
      split at stepped <;> cases stepped
      next was missing => exact .inserts was missing
      next was present => exact .refused was (present ▸ Option.some_ne_none _)
  | lock caller =>
      refine ⟨caller, ?_⟩
      change before.lock crypto theirAddress opener caller = some after at stepped
      unfold Contact.lock at stepped
      split at stepped <;> cases stepped
      next was free found => exact .polls (.lock was free found)
  | resume caller answer =>
      refine ⟨caller, ?_⟩
      change before.resume crypto theirAddress caller answer = some after at stepped
      unfold Contact.resume at stepped
      split at stepped
      next closure was =>
        obtain ⟨poll, resumed, rfl⟩ := Option.map_eq_some_iff.mp stepped
        exact .polls (.resume was resumed)
      next => cases stepped

section MovesFacts

variable {caller : ι} (move : Moves crypto theirAddress opener before caller event after)

include move

/-- A step never takes an entry away, and creates one only where there is none. -/
theorem Moves.keeps (present : before.entry ≠ none) :
    after.entry ≠ none ∧ after.created = before.created := by
  cases move with
  | missed _ missing | lost _ missing | inserts _ missing => exact absurd missing present
  | found | refused => exact ⟨present, rfl⟩
  | polls turn =>
      rw [Contact.after_entry, Contact.after_created]
      exact ⟨turn.keeps present, rfl⟩

theorem Moves.others : ∀ other, other ≠ caller → after.stage other = before.stage other := by
  intro other different
  cases move with
  | missed | found | lost | inserts | refused => exact Function.update_of_ne different ..
  | @polls _ poll =>
      obtain ⟨stage, moved, -⟩ := before.after_stage caller poll
      rw [moved, Function.update_of_ne different]

/-- An operation that found no entry creates it or fails. -/
theorem Moves.of_absent (absent : before.stage caller = .absent) :
    (before.entry = none ∧ after.entry ≠ none) ∨
      before.entry ≠ none ∧ ∃ fault, after.stage caller = .failed fault := by
  cases move with
  | missed was | lost was => cases absent.symm.trans was
  | found was => rcases was with was | was <;> cases absent.symm.trans was
  | inserts _ missing => exact .inl ⟨missing, Option.some_ne_none _⟩
  | refused _ present => exact .inr ⟨present, _, Function.update_self ..⟩
  | polls turn => rcases turn.was with was | ⟨_, was⟩ <;> cases absent.symm.trans was

theorem Moves.not_failed {fault : Fault} : before.stage caller ≠ .failed fault := by
  intro failed
  cases move with
  | missed was | lost was | inserts was | refused was => cases failed.symm.trans was
  | found was => rcases was with was | was <;> cases failed.symm.trans was
  | polls turn => rcases turn.was with was | ⟨_, was⟩ <;> cases failed.symm.trans was

end MovesFacts

/-! ### Without a race -/

theorem Serial.missed (serial : Serial before) {caller : ι} (missing : before.entry = none)
    (first : ∀ other, before.stage other ≠ .absent) : Serial (before.move caller .absent) where
  missing _ := by
    refine ⟨(serial.missing missing).1, ?_⟩
    exact (Function.forall_update_iff _ fun _ stage => stage = Stage.idle ∨ stage = .absent).mpr
      ⟨.inr rfl, fun other _ => (serial.missing missing).2 other⟩
  alone _ := by
    have only : ∀ other, Function.update before.stage caller .absent other = .absent →
        other = caller := by
      intro other absent
      by_contra different
      rw [Function.update_of_ne different] at absent
      exact first other absent
    intro one two oneAbsent twoAbsent
    exact (only one oneAbsent).trans (only two twoAbsent).symm
  present present := absurd missing present
  unfailed := (Function.forall_update_iff _ fun _ (stage : Stage) =>
    ∀ fault, stage ≠ .failed fault).mpr ⟨by simp, fun other _ => serial.unfailed other⟩

theorem Serial.step (serial : Serial before) (orderly : ¬ Races before event)
    (stepped : contactStep crypto theirAddress opener before event = some after) :
    Serial after := by
  obtain ⟨caller, move⟩ := moves_of_step stepped
  cases move with
  | missed was missing =>
      exact serial.missed missing fun other absent =>
        orderly ⟨caller, rfl, was, missing, other, absent⟩
  | found was present =>
      have moved : (before.move caller .waiting).entry ≠ none := present
      apply serial_of_present moved (serial.present present).1
      exact onTrack_update (fun other _ => serial.onTrack present other) (by simp [Stage.OnTrack])
  | lost was missing =>
      rcases (serial.missing missing).2 caller with same | same <;> cases was.symm.trans same
  | inserts was missing =>
      have one : (before.insert crypto theirAddress caller).created.length = 1 := by
        change (before.created ++ [_]).length = 1
        rw [(serial.missing missing).1]
        rfl
      apply serial_of_present (Option.some_ne_none _) one
      refine onTrack_update (fun other different => ⟨fun absent => ?_, serial.unfailed other⟩)
        (by simp [Stage.OnTrack])
      exact different (serial.alone missing other caller absent was)
  | refused was present => exact absurd was ((serial.present present).2 caller)
  | @polls _ poll turn =>
      have present : before.entry ≠ none := by
        intro missing
        rcases (serial.missing missing).2 caller with same | same <;>
          rcases turn.was with was | ⟨_, was⟩ <;> cases was.symm.trans same
      obtain ⟨stage, moved, ended⟩ := before.after_stage caller poll
      have onTrack : stage.OnTrack := by
        rcases ended with ⟨_, rfl⟩ | ⟨_, rfl⟩ <;> simp [Stage.OnTrack]
      apply serial_of_present
      · rw [before.after_entry]
        exact turn.keeps present
      · rw [before.after_created]
        exact (serial.present present).1
      · rw [moved]
        exact onTrack_update (fun other _ => serial.onTrack present other) onTrack

/-! ### After a race -/

theorem Doomed.step (doomed : Doomed before)
    (stepped : contactStep crypto theirAddress opener before event = some after) :
    Doomed after := by
  obtain ⟨caller, move⟩ := moves_of_step stepped
  rcases doomed with ⟨missing, first, second, different, absent, absentToo⟩ | ⟨present, other, lost⟩
  · by_cases stillMissing : after.entry = none
    · -- neither of the two moved: that would have created the entry
      have stays : ∀ other, before.stage other = .absent → after.stage other = .absent := by
        intro other absent
        rw [← absent]
        refine move.others other fun same => ?_
        rcases move.of_absent (same ▸ absent) with ⟨-, created⟩ | ⟨present, -⟩
        · exact created stillMissing
        · exact present missing
      exact .inl ⟨stillMissing, first, second, different, stays _ absent, stays _ absentToo⟩
    · by_cases same : first = caller
      · have elsewhere : second ≠ caller := fun moved => different (same.trans moved.symm)
        exact .inr ⟨stillMissing, second, .inl ((move.others _ elsewhere).trans absentToo)⟩
      · exact .inr ⟨stillMissing, first, .inl ((move.others _ same).trans absent)⟩
  · refine .inr ⟨(move.keeps present).1, other, ?_⟩
    by_cases same : other = caller
    · subst same
      rcases lost with absent | ⟨fault, failed⟩
      · rcases move.of_absent absent with ⟨missing, -⟩ | ⟨-, failed⟩
        · exact absurd missing present
        · exact .inr failed
      · exact absurd failed move.not_failed
    · rw [move.others other same]
      exact lost

/-- A race dooms the run. -/
theorem Races.doomed (races : Races before event)
    (stepped : contactStep crypto theirAddress opener before event = some after) :
    Doomed after := by
  obtain ⟨caller, rfl, idle, missing, other, absent⟩ := races
  change before.getCounterparty caller = some after at stepped
  unfold Contact.getCounterparty at stepped
  rw [idle, missing] at stepped
  obtain rfl := Option.some.inj stepped
  have different : other ≠ caller := by
    rintro rfl
    cases idle.symm.trans absent
  refine .inl ⟨missing, caller, other, different.symm, Function.update_self .., ?_⟩
  exact (Function.update_of_ne different ..).trans absent

/-! ### Whole runs -/

variable {taken : List (Transition (Contact ι) (ContactEvent ι))}

/-- Without a race every state of a run is serial. -/
theorem serial_of_run (run : (contactMachine crypto theirAddress opener).Run .empty taken contact)
    (orderly : ∀ transition ∈ taken, ¬ Races transition.before transition.event) :
    Serial contact :=
  run.invariant_of_guard Serial (fun before event => ¬ Races before event) serial_empty
    (fun _ _ _ serial calm stepped => serial.step calm stepped) orderly

/-- The operations that meet an address for the first time are all welcomed exactly in the
runs in which none of them finds the entry missing while another one is about to create it. -/
theorem first_contact_welcomes_iff
    (run : (contactMachine crypto theirAddress opener).Run .empty taken contact)
    (settled : contact.Settled) :
    Welcomes taken contact ↔
      ∀ transition ∈ taken, ¬ Races transition.before transition.event := by
  have kept : ∀ transition ∈ taken, transition.before.entry ≠ none →
      transition.after.entry ≠ none ∧
        transition.after.created = transition.before.created := by
    intro transition member present
    obtain ⟨caller, move⟩ := moves_of_step (run.step_of_mem transition member)
    exact move.keeps present
  constructor
  · intro welcomes transition member races
    obtain ⟨front, rest, rfl⟩ := List.append_of_mem member
    obtain ⟨-, stepped, onward⟩ := run.split
    have doomed := onward.invariant Doomed (races.doomed stepped)
      fun _ _ _ doomed stepped => doomed.step stepped
    obtain ⟨caller, fault, failed⟩ := doomed.settled settled
    rcases welcomes.guarded caller with idle | ⟨result, finished⟩
    · cases failed.symm.trans idle
    · cases failed.symm.trans finished
  · intro orderly
    have serial := serial_of_run run orderly
    refine ⟨?_, kept, ?_⟩
    · rintro ⟨caller, started⟩
      refine (serial.present fun missing => ?_).1
      have stage := (serial.missing missing).2 caller
      rcases settled caller with idle | ⟨result, finished⟩ | ⟨fault, failed⟩
      · exact started idle
      · rw [finished] at stage
        rcases stage with same | same <;> cases same
      · exact serial.unfailed caller fault failed
    · intro caller
      rcases settled caller with idle | finished | ⟨fault, failed⟩
      · exact .inl idle
      · exact .inr finished
      · exact absurd failed (serial.unfailed caller fault)

/-! ### The entry behind a first contact -/

/-- The entry machine takes the lookup and the insertion of an operation for one step. Its
node stands behind a contact: it holds the operation that holds the `Guard`, and it may not
know yet of an inserted entry. -/
structure StandsBehind (crypto : Crypto) (theirAddress : Address) (opener : ι → Opener)
    (contact : Contact ι) (node : Node) : Prop where
  present : ∀ caller, contact.stage caller = .waiting ∨
    (∃ closure, contact.stage caller = .holding closure) → contact.entry ≠ none
  holding : ∀ caller closure, contact.stage caller = .holding closure →
    contact.holder = some caller
  free : contact.holder = none → node.running = none ∧ (node.entry = contact.entry ∨
    node.entry = none ∧
      contact.entry = some (makeCounterpartyIfNone theirAddress crypto.ownAddress none))
  held : ∀ caller, contact.holder = some caller → node.entry = contact.entry ∧
    ∃ call closure, contact.stage caller = .holding closure ∧
      node.running = some ⟨(opener caller).operation, call, closure⟩

omit [DecidableEq ι] in
theorem standsBehind_empty :
    StandsBehind crypto theirAddress opener (Contact.empty : Contact ι) .fresh where
  present _ asked := by rcases asked with same | ⟨_, same⟩ <;> cases same
  holding _ _ same := by cases same
  free _ := ⟨rfl, .inl rfl⟩
  held _ same := by cases same

/-- The first poll of an operation does not depend on who made the counterparty. -/
theorem Opener.start_none (opener : Opener) :
    opener.start crypto theirAddress none = opener.start crypto theirAddress
      (some (makeCounterpartyIfNone theirAddress crypto.ownAddress none)) := by
  cases opener <;> rfl

theorem Opener.poll (opener : Opener) {node : Node} (free : node.running = none) :
    node.poll crypto theirAddress opener.input =
      some (opener.operation, opener.start crypto theirAddress node.entry) := by
  cases opener with
  | fillChannel amount =>
      simp only [Opener.input, Node.poll, free]
      rfl
  | proposeChannel newChannelTx =>
      simp only [Opener.input, Node.poll, free]
      rfl

theorem StandsBehind.move {node : Node} {caller : ι} {stage : Stage}
    (behind : StandsBehind crypto theirAddress opener before node)
    (was : ∀ closure, before.stage caller ≠ .holding closure)
    (waits : stage = .waiting → before.entry ≠ none)
    (guardless : ∀ closure, stage ≠ .holding closure) :
    StandsBehind crypto theirAddress opener (before.move caller stage) node := by
  refine ⟨?_, ?_, behind.free, ?_⟩
  · intro other asked
    rw [before.move_stage] at asked
    rcases eq_or_ne other caller with rfl | different
    · rw [Function.update_self] at asked
      rcases asked with waiting | ⟨closure, holding⟩
      · exact waits waiting
      · exact absurd holding (guardless closure)
    · rw [Function.update_of_ne different] at asked
      exact behind.present other asked
  · intro other closure holding
    rw [before.move_stage] at holding
    rcases eq_or_ne other caller with rfl | different
    · rw [Function.update_self] at holding
      exact absurd holding (guardless closure)
    · rw [Function.update_of_ne different] at holding
      exact behind.holding other closure holding
  · intro other holder
    obtain ⟨entry, call, closure, holding, running⟩ := behind.held other holder
    have different : other ≠ caller := fun same => was closure (same ▸ holding)
    refine ⟨entry, call, closure, ?_, running⟩
    rw [before.move_stage, Function.update_of_ne different]
    exact holding

theorem StandsBehind.insert {node : Node} {caller : ι}
    (behind : StandsBehind crypto theirAddress opener before node)
    (was : before.stage caller = .absent) (missing : before.entry = none) :
    StandsBehind crypto theirAddress opener (before.insert crypto theirAddress caller) node := by
  have moved : StandsBehind crypto theirAddress opener (before.move caller .inserted) node :=
    behind.move (by simp [was]) (by simp) (by simp)
  refine ⟨fun _ _ => Option.some_ne_none _, moved.holding, ?_, ?_⟩
  · intro free
    obtain ⟨running, same | ⟨unaware, -⟩⟩ := moved.free free
    · exact ⟨running, .inr ⟨same.trans missing, rfl⟩⟩
    · exact ⟨running, .inr ⟨unaware, rfl⟩⟩
  · intro other holder
    obtain ⟨-, call, closure, holding, -⟩ := moved.held other holder
    exact absurd missing (moved.present other (.inr ⟨closure, holding⟩))

theorem StandsBehind.poll {node : Node} {caller : ι} {poll : Poll}
    (behind : StandsBehind crypto theirAddress opener before node)
    (left : poll.entry ≠ none) (turn : before.holder = none ∨ before.holder = some caller) :
    StandsBehind crypto theirAddress opener (before.after caller poll)
      (node.after (opener caller).operation poll) := by
  have alone : ∀ other closure, before.stage other = .holding closure → other = caller := by
    intro other closure holding
    have holder := behind.holding other closure holding
    rcases turn with free | held
    · cases free.symm.trans holder
    · exact Option.some.inj (holder.symm.trans held)
  have elsewhere : ∀ stage other closure,
      Function.update before.stage caller stage other = .holding closure →
        other = caller ∧ stage = .holding closure := by
    intro stage other closure holding
    rcases eq_or_ne other caller with rfl | different
    · rw [Function.update_self] at holding
      exact ⟨rfl, holding⟩
    · rw [Function.update_of_ne different] at holding
      exact absurd (alone other closure holding) different
  cases shape : poll.next with
  | resolved result =>
      have moved : before.after caller poll =
          { before.move caller (.finished result) with entry := poll.entry, holder := none } := by
        simp only [Contact.after, shape]
      have returned : poll.running (opener caller).operation = none := by
        simp only [Poll.running, shape]
      rw [moved]
      refine ⟨fun _ _ => left, ?_, fun _ => ⟨returned, .inl rfl⟩, nofun⟩
      intro other closure holding
      cases (elsewhere _ other closure holding).2
  | suspended call closure =>
      have moved : before.after caller poll =
          { before.move caller (.holding closure) with
            entry := poll.entry, holder := some caller } := by
        simp only [Contact.after, shape]
      have waits : poll.running (opener caller).operation =
          some ⟨(opener caller).operation, call, closure⟩ := by
        simp only [Poll.running, shape]
      rw [moved]
      refine ⟨fun _ _ => left, ?_, nofun, ?_⟩
      · intro other next holding
        rw [(elsewhere _ other next holding).1]
      · rintro _ ⟨⟩
        exact ⟨rfl, call, closure, Function.update_self .., waits⟩

theorem StandsBehind.step {node : Node}
    (behind : StandsBehind crypto theirAddress opener before node)
    (stepped : contactStep crypto theirAddress opener before event = some after) :
    ∃ next, StandsBehind crypto theirAddress opener after next ∧
      (next = node ∨ ∃ input, node.step crypto theirAddress input = some next) := by
  obtain ⟨caller, move⟩ := moves_of_step stepped
  cases move with
  | missed was => exact ⟨node, behind.move (by simp [was]) (by simp) (by simp), .inl rfl⟩
  | found was present =>
      have guardless : ∀ closure, before.stage caller ≠ .holding closure := by
        rcases was with was | was <;> simp [was]
      exact ⟨node, behind.move guardless (fun _ => present) (by simp), .inl rfl⟩
  | lost was => exact ⟨node, behind.move (by simp [was]) (by simp) (by simp), .inl rfl⟩
  | inserts was missing => exact ⟨node, behind.insert was missing, .inl rfl⟩
  | refused was => exact ⟨node, behind.move (by simp [was]) (by simp) (by simp), .inl rfl⟩
  | @polls _ poll turn =>
      have present := behind.present caller turn.was
      refine ⟨node.after (opener caller).operation poll,
        behind.poll (turn.keeps present) ?_, .inr ?_⟩
      · cases turn with
        | lock _ free => exact .inl free
        | resume was => exact .inr (behind.holding caller _ was)
      · cases turn with
        | lock was free found =>
            obtain ⟨idle, entry⟩ := behind.free free
            refine ⟨(opener caller).input, step_eq_some.mpr ⟨_, _, (opener caller).poll idle, ?_⟩⟩
            rcases entry with same | ⟨unaware, made⟩
            · rw [same, found]
            · rw [unaware, Opener.start_none, ← made, found]
        | @resume closure answer _ was resumed =>
            obtain ⟨same, call, known, holding, running⟩ :=
              behind.held caller (behind.holding caller closure was)
            obtain rfl := Stage.holding.inj (was.symm.trans holding)
            refine ⟨.resume answer, step_eq_some.mpr ⟨_, _, ?_, rfl⟩⟩
            simp only [Node.poll, running, same, resumed]

/-- Every run of a first contact is one of the entry: the node behind it takes the lookups
and insertions for nothing and the polls for its own. -/
theorem entry_behind_contact
    (run : (contactMachine crypto theirAddress opener).Run .empty taken contact) :
    ∃ entryTaken node, (entryMachine crypto theirAddress).Run .fresh entryTaken node ∧
      StandsBehind crypto theirAddress opener contact node := by
  induction run with
  | nil => exact ⟨[], .fresh, .nil, standsBehind_empty⟩
  | snoc _ stepped inductionHypothesis =>
      obtain ⟨entryTaken, node, entryRun, behind⟩ := inductionHypothesis
      obtain ⟨next, behindAfter, rfl | ⟨input, moved⟩⟩ := behind.step stepped
      · exact ⟨entryTaken, next, entryRun, behindAfter⟩
      · exact ⟨_, next, .snoc entryRun moved, behindAfter⟩

/-- An operation on its way can go on: no order of steps gets stuck before it is settled. -/
theorem unsettled_goes_on
    (run : (contactMachine crypto theirAddress opener).Run .empty taken contact)
    (unsettled : ¬ contact.Settled) :
    ∃ event next, contactStep crypto theirAddress opener contact event = some next := by
  obtain ⟨-, node, -, behind⟩ := entry_behind_contact run
  have holderGoesOn : ∀ holder closure, contact.stage holder = .holding closure →
      ∃ event next, contactStep crypto theirAddress opener contact event = some next := by
    intro holder closure holding
    refine ⟨.resume holder (.error .panic), contact.after holder (.fail contact.entry .panic), ?_⟩
    change contact.resume crypto theirAddress holder _ = _
    unfold Contact.resume
    rw [holding]
    rfl
  obtain ⟨caller, onItsWay⟩ := not_forall.mp unsettled
  cases stage : contact.stage caller with
  | idle => exact absurd (.inl stage) onItsWay
  | finished result => exact absurd (.inr (.inl ⟨result, stage⟩)) onItsWay
  | failed fault => exact absurd (.inr (.inr ⟨fault, stage⟩)) onItsWay
  | holding closure => exact holderGoesOn caller closure stage
  | absent =>
      refine ⟨.newCounterparty caller, ?_⟩
      change ∃ next, contact.newCounterparty crypto theirAddress caller = some next
      unfold Contact.newCounterparty
      cases entry : contact.entry <;> simp [stage]
  | inserted =>
      refine ⟨.getCounterparty caller, ?_⟩
      change ∃ next, contact.getCounterparty caller = some next
      unfold Contact.getCounterparty
      cases entry : contact.entry <;> simp [stage]
  | waiting =>
      cases holder : contact.holder with
      | some other =>
          obtain ⟨-, -, closure, holding, -⟩ := behind.held other holder
          exact holderGoesOn other closure holding
      | none =>
          obtain ⟨counterparty, found⟩ :=
            Option.ne_none_iff_exists'.mp (behind.present caller (.inl stage))
          refine ⟨.lock caller, ?_⟩
          change ∃ next, contact.lock crypto theirAddress opener caller = some next
          unfold Contact.lock
          simp [stage, holder, found]

end Steps

namespace Sample

def meeting : Bool → Opener
  | false => .fillChannel 10
  | true => .proposeChannel ⟨1, 2, 0, 5, 40, 5000, none, none⟩

/-- The fill makes the counterparty before the proposal looks it up. -/
def takesTurns : List (ContactEvent Bool) :=
  [.getCounterparty false, .newCounterparty false, .getCounterparty true,
    .getCounterparty false, .lock false, .resume false (.error (.failure "offline")), .lock true]

/-- Both look the counterparty up before one of them makes it. -/
def meetsTwice : List (ContactEvent Bool) :=
  [.getCounterparty false, .getCounterparty true, .newCounterparty false, .newCounterparty true,
    .getCounterparty false, .lock false, .resume false (.error (.failure "offline"))]

end Sample

/-- In turn both obtain the `Guard`, and the proposal is signed. -/
theorem first_contact_welcomes_iff_sample :
    let machine := contactMachine (Sample.crypto 1) 2 Sample.meeting
    ∃ contact ∈ machine.replay .empty Sample.takesTurns,
      contact.entry = some (.otherCreating ⟨1, 2, 0, 5, 40, 5000, none, none⟩ true) ∧
        Welcomes (machine.trace .empty Sample.takesTurns) contact := by
  intro machine
  obtain ⟨contact, reached, entry, fill, proposal, orderly⟩ :
      ∃ contact ∈ machine.replay .empty Sample.takesTurns,
        contact.entry = some (.otherCreating ⟨1, 2, 0, 5, 40, 5000, none, none⟩ true) ∧
          (∃ result, contact.stage false = .finished result) ∧
          (∃ result, contact.stage true = .finished result) ∧
          ∀ transition ∈ machine.trace .empty Sample.takesTurns,
            ¬ Races transition.before transition.event := by
    refine ⟨_, rfl, rfl, ⟨_, rfl⟩, ⟨_, rfl⟩, ?_⟩
    decide +kernel
  have settled : contact.Settled := by
    rintro (_ | _)
    · exact .inr (.inl fill)
    · exact .inr (.inl proposal)
  exact ⟨contact, reached, entry,
    (first_contact_welcomes_iff (Machine.run_of_replay reached) settled).mpr orderly⟩

/-- At the same time one of them fails, because the counterparty it asked for exists. -/
theorem first_contact_fails_spuriously :
    let machine := contactMachine (Sample.crypto 1) 2 Sample.meeting
    ∃ contact ∈ machine.replay .empty Sample.meetsTwice,
      contact.Settled ∧ contact.stage true = .failed (.failure "Counterparty already exists") ∧
        ¬ Welcomes (machine.trace .empty Sample.meetsTwice) contact := by
  intro machine
  obtain ⟨contact, reached, fill, proposal⟩ :
      ∃ contact ∈ machine.replay .empty Sample.meetsTwice,
        (∃ result, contact.stage false = .finished result) ∧
          contact.stage true = .failed (.failure "Counterparty already exists") :=
    ⟨_, rfl, ⟨_, rfl⟩, rfl⟩
  refine ⟨contact, reached, ?_, proposal, fun welcomes => ?_⟩
  · rintro (_ | _)
    · exact .inr (.inl fill)
    · exact .inr (.inr ⟨_, proposal⟩)
  · rcases welcomes.guarded true with idle | ⟨result, finished⟩
    · cases proposal.symm.trans idle
    · cases proposal.symm.trans finished

end Guac
