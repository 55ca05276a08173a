import Guac.Foundation.Side

/-!
Owns how two parties and a ledger move to a new value at three different
moments. One party leads: with the consent of the other it submits a deal, and
once the ledger has carried the deal out it gives notice. The other follows:
from its consent on it holds no value of its own, until the notice arrives.
Consents, notices and acknowledgements may be lost, and a leader may give up at
any time.

The result is that a party that holds a value holds the one in the ledger.
-/

set_option autoImplicit false

namespace Guac.Foundation

/-- What a party is doing: it holds a value, it leads a deal and may be done
waiting for the ledger, or it follows one. -/
inductive Phase (V W : Type*) where
  | stable (value : V)
  | leading (deal : W) (told : Bool)
  | following (deal : W)

/-- A party, the consent and the acknowledgement that are on their way to it,
and the notices it gave that the other has not acted on. -/
structure Party (V W : Type*) where
  phase : Phase V W
  consent : Option W
  notices : Nat
  acknowledged : Prop

structure Handover (V W : Type*) where
  party : Side → Party V W
  pending : List W
  ledger : V

variable {V W : Type*}

/-- Messages may be lost. -/
structure Party.Loses (before after : Party V W) : Prop where
  consent : ∀ deal, after.consent = some deal → before.consent = some deal
  notices : after.notices ≤ before.notices
  acknowledged : after.acknowledged → before.acknowledged

/-- The party goes on as it was; messages may be lost. -/
structure Party.Stays (before after : Party V W) : Prop extends before.Loses after where
  phase : after.phase = before.phase

namespace Party.Loses

variable {before after : Party V W}

theorem unasked (loses : before.Loses after) (unasked : before.consent = none) :
    after.consent = none :=
  Option.eq_none_iff_forall_ne_some.mpr fun deal asked => by
    cases unasked.symm.trans (loses.consent deal asked)

theorem unnoticed (loses : before.Loses after) (unnoticed : before.notices = 0) :
    after.notices = 0 := by
  have fewer := loses.notices
  omega

end Party.Loses

namespace Handover

/-- The ledger has not moved. -/
structure Still (before after : Handover V W) : Prop where
  pending : after.pending = before.pending
  ledger : after.ledger = before.ledger

/-- Everything a step can do. -/
inductive Step (outcome : W → V) (before after : Handover V W) : Prop
  | stay (parties : ∀ side, (before.party side).Stays (after.party side))
      (still : before.Still after)
  /-- A party consents to a deal; only a party that holds a value hears of it. -/
  | follow (side : Side) {value : V} {deal : W}
      (stable : (before.party side).phase = .stable value)
      (follows : (after.party side).phase = .following deal)
      (mine : (before.party side).Loses (after.party side))
      (unasked : (before.party side).consent = none)
      (theirs : (after.party side.other).phase = (before.party side.other).phase)
      (consents : ∀ other, (after.party side.other).consent = some other →
        (before.party side.other).consent = some other ∨
          other = deal ∧ ∃ value, (before.party side.other).phase = .stable value)
      (notices : (after.party side.other).notices ≤ (before.party side.other).notices)
      (acknowledged : (after.party side.other).acknowledged →
        (before.party side.other).acknowledged)
      (still : before.Still after)
  /-- A party submits the deal the other consented to. -/
  | lead (side : Side) {value : V} {deal : W}
      (stable : (before.party side).phase = .stable value)
      (consent : (before.party side).consent = some deal)
      (leads : (after.party side).phase = .leading deal false)
      (mine : (before.party side).Loses (after.party side))
      (used : (after.party side).consent = none)
      (theirs : (before.party side.other).Stays (after.party side.other))
      (pending : after.pending = before.pending ++ [deal])
      (ledger : after.ledger = before.ledger)
  /-- The ledger carries out a deal that every leader waits for while nobody
  holds a value. -/
  | commit {value : V} (parties : ∀ side, (before.party side).Stays (after.party side))
      (nobody : ∀ side value, (before.party side).phase ≠ .stable value)
      (leaders : ∀ side deal told, (before.party side).phase = .leading deal told →
        outcome deal = value)
      (pending : after.pending = []) (ledger : after.ledger = value)
  /-- A leader stops waiting for the ledger. -/
  | abandon (side : Side) {deal : W} {told : Bool}
      (leading : (before.party side).phase = .leading deal told)
      (leads : (after.party side).phase = .leading deal true)
      (mine : (before.party side).Loses (after.party side))
      (theirs : (before.party side.other).Stays (after.party side.other))
      (still : before.Still after)
  /-- A leader that saw the deal carried out gives notice. -/
  | notify (side : Side) {deal : W}
      (leading : (before.party side).phase = .leading deal false)
      (carriedOut : before.pending = [])
      (leads : (after.party side).phase = .leading deal true)
      (consent : (after.party side).consent = none)
      (notices : (after.party side).notices ≤ (before.party side).notices + 1)
      (acknowledged : ¬ (after.party side).acknowledged)
      (theirs : (before.party side.other).Stays (after.party side.other))
      (still : before.Still after)
  /-- A party that follows acts on a notice. -/
  | conclude (side : Side) {deal : W}
      (following : (before.party side).phase = .following deal)
      (holds : (after.party side).phase = .stable (outcome deal))
      (mine : (before.party side).Loses (after.party side))
      (theirs : (after.party side.other).phase = (before.party side.other).phase)
      (consent : ∀ deal, (after.party side.other).consent = some deal →
        (before.party side.other).consent = some deal)
      (notices : (after.party side.other).notices + 1 ≤ (before.party side.other).notices)
      (still : before.Still after)
  /-- A leader hears that its notice was acted on. -/
  | finish (side : Side) {deal : W} {told : Bool}
      (leading : (before.party side).phase = .leading deal told)
      (acknowledged : (before.party side).acknowledged)
      (holds : (after.party side).phase = .stable (outcome deal))
      (mine : (before.party side).Loses (after.party side))
      (used : ¬ (after.party side).acknowledged)
      (theirs : (before.party side.other).Stays (after.party side.other))
      (still : before.Still after)

/-- The invariant as one party sees it. -/
structure Sided (outcome : W → V) (mine theirs : Party V W) (pending : List W) (ledger : V) :
    Prop where
  consent : ∀ deal, mine.consent = some deal →
    (∃ value, mine.phase = .stable value) ∧ theirs.phase = .following deal
  led : ∀ deal, mine.phase = .leading deal false → theirs.phase = .following deal
  alone : ∀ deal told, mine.phase = .leading deal told →
    ∀ other told, theirs.phase ≠ .leading other told
  noticed : 1 ≤ mine.notices → mine.notices = 1 ∧ pending = [] ∧
    ∃ deal, mine.phase = .leading deal true ∧ theirs.phase = .following deal
  acknowledged : mine.acknowledged → mine.notices = 0 ∧ pending = [] ∧
    ∃ deal, mine.phase = .leading deal true
  committed : ∀ deal told, mine.phase = .leading deal told → pending = [] →
    ledger = outcome deal
  stable : ∀ value, mine.phase = .stable value → ledger = value

/-- The invariant of a handover. -/
structure Sound (outcome : W → V) (handover : Handover V W) : Prop where
  sided : ∀ side : Side, Sided outcome (handover.party side) (handover.party side.other)
    handover.pending handover.ledger
  pending : ∀ deal ∈ handover.pending, handover.pending = [deal] ∧
    ∃ side told, (handover.party side).phase = .leading deal told ∧
      (handover.party side.other).phase = .following deal ∧ (handover.party side).notices = 0

variable {outcome : W → V} {before after : Handover V W}

theorem Sound.views (sound : before.Sound outcome) (side : Side) :
    Sided outcome (before.party side) (before.party side.other) before.pending before.ledger ∧
      Sided outcome (before.party side.other) (before.party side) before.pending
        before.ledger := by
  have theirs := sound.sided side.other
  rw [Side.other_other] at theirs
  exact ⟨sound.sided side, theirs⟩

theorem Sound.of_views (side : Side)
    (mine : Sided outcome (after.party side) (after.party side.other) after.pending after.ledger)
    (theirs : Sided outcome (after.party side.other) (after.party side) after.pending
      after.ledger)
    (pending : ∀ deal ∈ after.pending, after.pending = [deal] ∧
      ∃ side told, (after.party side).phase = .leading deal told ∧
        (after.party side.other).phase = .following deal ∧ (after.party side).notices = 0) :
    after.Sound outcome := by
  refine ⟨(side.forall_iff).mpr ⟨mine, ?_⟩, pending⟩
  rw [Side.other_other]
  exact theirs

/-- While a deal is pending, it is the only one led and nobody holds a value. -/
theorem Sound.pending_alone (sound : before.Sound outcome) {deal : W}
    (member : deal ∈ before.pending) :
    (∀ side value, (before.party side).phase ≠ .stable value) ∧
      ∀ side other told, (before.party side).phase = .leading other told → other = deal := by
  obtain ⟨-, leader, _, leads, follows, -⟩ := sound.pending deal member
  constructor
  · intro side value stable
    rcases leader.eq_or_eq_other side with rfl | rfl
    · cases leads.symm.trans stable
    · cases follows.symm.trans stable
  · intro side other told leading
    rcases leader.eq_or_eq_other side with rfl | rfl
    · cases leads.symm.trans leading
      rfl
    · cases follows.symm.trans leading

theorem Sound.idle_of_stable (sound : before.Sound outcome) {side : Side} {value : V}
    (stable : (before.party side).phase = .stable value) : before.pending = [] :=
  List.eq_nil_iff_forall_not_mem.mpr fun _ member =>
    (sound.pending_alone member).1 side value stable

/-! ### A view, by the phase of its party -/

section Views

variable {mine theirs nextMine nextTheirs : Party V W} {pending : List W} {ledger value : V}
  {deal : W} {told : Bool}

theorem Sided.following_iff (follows : mine.phase = .following deal) :
    Sided outcome mine theirs pending ledger ↔
      mine.consent = none ∧ mine.notices = 0 ∧ ¬ mine.acknowledged := by
  constructor
  · intro sided
    refine ⟨?_, ?_, ?_⟩
    · by_contra asked
      obtain ⟨other, consents⟩ := Option.ne_none_iff_exists'.mp asked
      obtain ⟨⟨value, stable⟩, -⟩ := sided.consent other consents
      cases follows.symm.trans stable
    · by_contra given
      obtain ⟨-, -, other, leads, -⟩ := sided.noticed (Nat.one_le_iff_ne_zero.mpr given)
      cases follows.symm.trans leads
    · intro acknowledged
      obtain ⟨-, -, other, leads⟩ := sided.acknowledged acknowledged
      cases follows.symm.trans leads
  · rintro ⟨unasked, unnoticed, unacknowledged⟩
    constructor
    case consent => exact fun other consents => by cases unasked.symm.trans consents
    case led => exact fun other leads => by cases follows.symm.trans leads
    case alone => exact fun other told leads => by cases follows.symm.trans leads
    case noticed => exact fun given => by omega
    case acknowledged => exact fun acknowledged => absurd acknowledged unacknowledged
    case committed => exact fun other told leads => by cases follows.symm.trans leads
    case stable => exact fun value stable => by cases follows.symm.trans stable

theorem Sided.stable_iff (stable : mine.phase = .stable value) :
    Sided outcome mine theirs pending ledger ↔
      (∀ deal, mine.consent = some deal → theirs.phase = .following deal) ∧
        mine.notices = 0 ∧ ¬ mine.acknowledged ∧ ledger = value := by
  constructor
  · intro sided
    refine ⟨fun other consents => (sided.consent other consents).2, ?_, ?_,
      sided.stable value stable⟩
    · by_contra given
      obtain ⟨-, -, other, leads, -⟩ := sided.noticed (Nat.one_le_iff_ne_zero.mpr given)
      cases stable.symm.trans leads
    · intro acknowledged
      obtain ⟨-, -, other, leads⟩ := sided.acknowledged acknowledged
      cases stable.symm.trans leads
  · rintro ⟨consents, unnoticed, unacknowledged, rfl⟩
    constructor
    case consent => exact fun other asked => ⟨⟨_, stable⟩, consents other asked⟩
    case led => exact fun other leads => by cases stable.symm.trans leads
    case alone => exact fun other told leads => by cases stable.symm.trans leads
    case noticed => exact fun given => by omega
    case acknowledged => exact fun acknowledged => absurd acknowledged unacknowledged
    case committed => exact fun other told leads => by cases stable.symm.trans leads
    case stable =>
      intro other holds
      cases stable.symm.trans holds
      rfl

/-- A leader is the only one; until it is told the other follows, and a notice or an
acknowledgement means that the ledger has carried the deal out. -/
structure Leads (outcome : W → V) (mine theirs : Party V W) (pending : List W) (ledger : V)
    (deal : W) (told : Bool) : Prop where
  unasked : mine.consent = none
  untold : told = false → theirs.phase = .following deal
  alone : ∀ other told, theirs.phase ≠ .leading other told
  noticed : 1 ≤ mine.notices →
    mine.notices = 1 ∧ pending = [] ∧ told = true ∧ theirs.phase = .following deal
  acknowledged : mine.acknowledged → mine.notices = 0 ∧ pending = [] ∧ told = true
  committed : pending = [] → ledger = outcome deal

theorem Sided.leading_iff (leads : mine.phase = .leading deal told) :
    Sided outcome mine theirs pending ledger ↔
      Leads outcome mine theirs pending ledger deal told := by
  constructor
  · intro sided
    constructor
    case unasked =>
      by_contra asked
      obtain ⟨other, consents⟩ := Option.ne_none_iff_exists'.mp asked
      obtain ⟨⟨value, stable⟩, -⟩ := sided.consent other consents
      cases leads.symm.trans stable
    case untold =>
      rintro rfl
      exact sided.led deal leads
    case alone => exact sided.alone deal told leads
    case noticed =>
      intro given
      obtain ⟨one, idle, other, leading, follows⟩ := sided.noticed given
      cases leads.symm.trans leading
      exact ⟨one, idle, rfl, follows⟩
    case acknowledged =>
      intro acknowledged
      obtain ⟨none, idle, other, leading⟩ := sided.acknowledged acknowledged
      cases leads.symm.trans leading
      exact ⟨none, idle, rfl⟩
    case committed => exact sided.committed deal told leads
  · intro led
    constructor
    case consent => exact fun other consents => by cases led.unasked.symm.trans consents
    case led =>
      intro other leading
      cases leads.symm.trans leading
      exact led.untold rfl
    case alone => exact fun _ _ _ => led.alone
    case noticed =>
      intro given
      obtain ⟨one, idle, rfl, follows⟩ := led.noticed given
      exact ⟨one, idle, deal, leads, follows⟩
    case acknowledged =>
      intro acknowledged
      obtain ⟨none, idle, rfl⟩ := led.acknowledged acknowledged
      exact ⟨none, idle, deal, leads⟩
    case committed =>
      intro other told leading
      cases leads.symm.trans leading
      exact led.committed
    case stable => exact fun value stable => by cases leads.symm.trans stable

/-- A party that goes on following is owed nothing, whatever becomes of the rest. -/
theorem Sided.still_following {nextPending : List W} {nextLedger : V}
    (sided : Sided outcome mine theirs pending ledger) (follows : mine.phase = .following deal)
    (stays : mine.Stays nextMine) :
    Sided outcome nextMine nextTheirs nextPending nextLedger := by
  obtain ⟨unasked, unnoticed, unacknowledged⟩ := (following_iff follows).mp sided
  exact (following_iff (stays.phase.trans follows)).mpr ⟨stays.unasked unasked,
    stays.unnoticed unnoticed, fun acknowledged => unacknowledged (stays.acknowledged acknowledged)⟩

theorem Sided.stay (sided : Sided outcome mine theirs pending ledger)
    (stays : mine.Stays nextMine) (theirStays : theirs.Stays nextTheirs) :
    Sided outcome nextMine nextTheirs pending ledger := by
  have phase := stays.phase
  cases before : mine.phase with
  | stable value =>
      rw [before] at phase
      obtain ⟨consents, unnoticed, unacknowledged, holds⟩ := (stable_iff before).mp sided
      refine (stable_iff phase).mpr ⟨?_, stays.unnoticed unnoticed, ?_, holds⟩
      · intro deal asked
        rw [theirStays.phase]
        exact consents deal (stays.consent deal asked)
      · exact fun acknowledged => unacknowledged (stays.acknowledged acknowledged)
  | following deal => exact sided.still_following before stays
  | leading deal told =>
      rw [before] at phase
      have led := (leading_iff before).mp sided
      have fewer := stays.notices
      rw [leading_iff phase]
      constructor
      case unasked => exact stays.unasked led.unasked
      case untold =>
        rw [theirStays.phase]
        exact led.untold
      case alone =>
        rw [theirStays.phase]
        exact led.alone
      case noticed =>
        intro given
        obtain ⟨one, idle, told, follows⟩ := led.noticed (Nat.le_trans given fewer)
        rw [theirStays.phase]
        exact ⟨by omega, idle, told, follows⟩
      case acknowledged =>
        intro acknowledged
        obtain ⟨none, idle, told⟩ := led.acknowledged (stays.acknowledged acknowledged)
        exact ⟨stays.unnoticed none, idle, told⟩
      case committed => exact led.committed

theorem Sided.beside (sided : Sided outcome mine theirs pending ledger)
    (leader : Sided outcome theirs mine pending ledger)
    (leads : theirs.phase = .leading deal told) (stays : mine.Stays nextMine) :
    Sided outcome nextMine nextTheirs pending ledger := by
  have phase := stays.phase
  cases before : mine.phase with
  | stable value =>
      rw [before] at phase
      obtain ⟨consents, unnoticed, unacknowledged, holds⟩ := (stable_iff before).mp sided
      refine (stable_iff phase).mpr ⟨?_, stays.unnoticed unnoticed, ?_, holds⟩
      · intro other asked
        cases leads.symm.trans (consents other (stays.consent other asked))
      · exact fun acknowledged => unacknowledged (stays.acknowledged acknowledged)
  | following other => exact sided.still_following before stays
  | leading other told => exact absurd before (leader.alone _ _ leads other told)

theorem Sided.hear (sided : Sided outcome mine theirs pending ledger)
    (stable : theirs.phase = .stable value) (follows : nextTheirs.phase = .following deal)
    (phase : nextMine.phase = mine.phase)
    (consents : ∀ other, nextMine.consent = some other →
      mine.consent = some other ∨ other = deal ∧ ∃ value, mine.phase = .stable value)
    (notices : nextMine.notices ≤ mine.notices)
    (acknowledged : nextMine.acknowledged → mine.acknowledged) :
    Sided outcome nextMine nextTheirs pending ledger := by
  have unasked : (∀ value, mine.phase ≠ .stable value) → mine.consent = none →
      nextMine.consent = none := fun unstable none =>
    Option.eq_none_iff_forall_ne_some.mpr fun other asked => by
      rcases consents other asked with earlier | ⟨-, value, holds⟩
      · cases none.symm.trans earlier
      · exact unstable value holds
  cases before : mine.phase with
  | stable held =>
      obtain ⟨asks, unnoticed, unacknowledged, holds⟩ := (stable_iff before).mp sided
      refine (stable_iff (phase.trans before)).mpr ⟨?_, by omega, ?_, holds⟩
      · intro other asked
        rcases consents other asked with earlier | ⟨rfl, -⟩
        · cases stable.symm.trans (asks other earlier)
        · exact follows
      · exact fun acknowledges => unacknowledged (acknowledged acknowledges)
  | following other =>
      obtain ⟨none, unnoticed, unacknowledged⟩ := (following_iff before).mp sided
      refine (following_iff (phase.trans before)).mpr ⟨unasked ?_ none, by omega, ?_⟩
      · exact fun value holds => by cases before.symm.trans holds
      · exact fun acknowledges => unacknowledged (acknowledged acknowledges)
  | leading other told =>
      have led := (leading_iff before).mp sided
      rw [leading_iff (phase.trans before)]
      constructor
      case unasked =>
        exact unasked (fun value holds => by cases before.symm.trans holds) led.unasked
      case untold =>
        intro untold
        cases stable.symm.trans (led.untold untold)
      case alone =>
        intro deal told leading
        cases follows.symm.trans leading
      case noticed =>
        intro given
        obtain ⟨-, -, -, following⟩ := led.noticed (Nat.le_trans given notices)
        cases stable.symm.trans following
      case acknowledged =>
        intro acknowledges
        obtain ⟨none, idle, told⟩ := led.acknowledged (acknowledged acknowledges)
        exact ⟨by omega, idle, told⟩
      case committed => exact led.committed

/-- A party that held a value leads the deal that the other follows. -/
theorem Sided.submit (sided : Sided outcome mine theirs pending ledger)
    (stable : mine.phase = .stable value) (leads : nextMine.phase = .leading deal false)
    (loses : mine.Loses nextMine) (used : nextMine.consent = none)
    (followed : nextTheirs.phase = .following deal) :
    Sided outcome nextMine nextTheirs [deal] ledger := by
  obtain ⟨-, unnoticed, unacknowledged, -⟩ := (stable_iff stable).mp sided
  rw [leading_iff leads]
  constructor
  case unasked => exact used
  case untold => exact fun _ => followed
  case alone =>
    intro other told leading
    cases followed.symm.trans leading
  case noticed =>
    intro given
    have none := loses.unnoticed unnoticed
    omega
  case acknowledged =>
    exact fun acknowledges => absurd (loses.acknowledged acknowledges) unacknowledged
  case committed => exact nofun

/-- The ledger carries out the deal of every leader while nobody holds a value. -/
theorem Sided.commit (sided : Sided outcome mine theirs pending ledger)
    (stays : mine.Stays nextMine) (theirStays : theirs.Stays nextTheirs)
    (unstable : ∀ value, mine.phase ≠ .stable value)
    (leaders : ∀ deal told, mine.phase = .leading deal told → outcome deal = value) :
    Sided outcome nextMine nextTheirs [] value := by
  have phase := stays.phase
  cases before : mine.phase with
  | stable other => exact absurd before (unstable other)
  | following deal => exact sided.still_following before stays
  | leading deal told =>
      have stayed := (leading_iff (phase.trans before)).mp (sided.stay stays theirStays)
      rw [leading_iff (phase.trans before)]
      constructor
      case unasked => exact stayed.unasked
      case untold => exact stayed.untold
      case alone => exact stayed.alone
      case noticed =>
        intro given
        obtain ⟨one, -, told, follows⟩ := stayed.noticed given
        exact ⟨one, rfl, told, follows⟩
      case acknowledged =>
        intro acknowledged
        obtain ⟨none, -, told⟩ := stayed.acknowledged acknowledged
        exact ⟨none, rfl, told⟩
      case committed => exact fun _ => (leaders deal told before).symm

end Views

/-! ### What a step keeps -/

theorem sound_start {handover : Handover V W}
    (stable : ∀ side, (handover.party side).phase = .stable handover.ledger)
    (unasked : ∀ side, (handover.party side).consent = none)
    (unnoticed : ∀ side, (handover.party side).notices = 0)
    (unacknowledged : ∀ side, ¬ (handover.party side).acknowledged)
    (idle : handover.pending = []) : handover.Sound outcome := by
  refine ⟨fun side => ?_, by simp [idle]⟩
  refine (Sided.stable_iff (stable side)).mpr ⟨?_, unnoticed side, unacknowledged side, rfl⟩
  intro deal asked
  cases (unasked side).symm.trans asked

theorem Sound.stay (sound : before.Sound outcome)
    (parties : ∀ side, (before.party side).Stays (after.party side))
    (still : before.Still after) : after.Sound outcome := by
  refine ⟨fun side => ?_, ?_⟩
  · rw [still.pending, still.ledger]
    exact (sound.sided side).stay (parties side) (parties side.other)
  · rw [still.pending]
    intro deal member
    obtain ⟨alone, side, told, leads, follows, none⟩ := sound.pending deal member
    refine ⟨alone, side, told, ?_, ?_, (parties side).unnoticed none⟩
    · rw [(parties side).phase, leads]
    · rw [(parties side.other).phase, follows]

theorem Sound.abandon (sound : before.Sound outcome) {side : Side} {deal : W} {told : Bool}
    (leading : (before.party side).phase = .leading deal told)
    (leads : (after.party side).phase = .leading deal true)
    (mine : (before.party side).Loses (after.party side))
    (theirs : (before.party side.other).Stays (after.party side.other))
    (still : before.Still after) : after.Sound outcome := by
  obtain ⟨myView, theirView⟩ := sound.views side
  have led := (Sided.leading_iff leading).mp myView
  refine .of_views side ?_ ?_ ?_
  · rw [still.pending, still.ledger, Sided.leading_iff leads]
    have fewer := mine.notices
    constructor
    case unasked => exact mine.unasked led.unasked
    case untold => exact nofun
    case alone =>
      rw [theirs.phase]
      exact led.alone
    case noticed =>
      intro given
      obtain ⟨one, idle, -, follows⟩ := led.noticed (Nat.le_trans given fewer)
      rw [theirs.phase]
      exact ⟨by omega, idle, rfl, follows⟩
    case acknowledged =>
      intro acknowledged
      obtain ⟨none, idle, -⟩ := led.acknowledged (mine.acknowledged acknowledged)
      exact ⟨mine.unnoticed none, idle, rfl⟩
    case committed => exact led.committed
  · rw [still.pending, still.ledger]
    exact theirView.beside myView leading theirs
  · rw [still.pending]
    intro other member
    obtain ⟨alone, leader, _, _, follows, none⟩ := sound.pending other member
    obtain rfl : deal = other := (sound.pending_alone member).2 side deal told leading
    rcases leader.eq_or_eq_other side with rfl | rfl
    · exact ⟨alone, side, true, leads, by rw [theirs.phase, follows], mine.unnoticed none⟩
    · cases follows.symm.trans leading

theorem Sound.step (sound : before.Sound outcome) (step : Step outcome before after) :
    after.Sound outcome := by
  cases step with
  | stay parties still => exact sound.stay parties still
  | abandon side leading leads mine theirs still =>
      exact sound.abandon leading leads mine theirs still
  | follow side stable follows mine unasked theirs consents notices acknowledged still =>
      obtain ⟨myView, theirView⟩ := sound.views side
      obtain ⟨-, unnoticed, unacknowledged, -⟩ := (Sided.stable_iff stable).mp myView
      have idle : after.pending = [] := still.pending.trans (sound.idle_of_stable stable)
      refine .of_views side ?_ ?_ (by simp [idle])
      · exact (Sided.following_iff follows).mpr ⟨mine.unasked unasked, mine.unnoticed unnoticed,
          fun acknowledges => unacknowledged (mine.acknowledged acknowledges)⟩
      · rw [still.pending, still.ledger]
        exact theirView.hear stable follows theirs consents notices acknowledged
  | lead side stable consent leads mine used theirs pending ledger =>
      obtain ⟨myView, theirView⟩ := sound.views side
      have follows := (myView.consent _ consent).2
      have followed := theirs.phase.trans follows
      rw [sound.idle_of_stable stable, List.nil_append] at pending
      refine .of_views side ?_ (theirView.still_following follows theirs) ?_
      · rw [pending, ledger]
        exact myView.submit stable leads mine used followed
      · rw [pending]
        intro other member
        obtain rfl := List.mem_singleton.mp member
        have unnoticed := ((Sided.stable_iff stable).mp myView).2.1
        exact ⟨rfl, side, false, leads, followed, mine.unnoticed unnoticed⟩
  | commit parties nobody leaders pending ledger =>
      refine ⟨fun side => ?_, by simp [pending]⟩
      rw [pending, ledger]
      exact (sound.sided side).commit (parties side) (parties side.other) (nobody side)
        (leaders side)
  | notify side leading carriedOut leads consent notices acknowledged theirs still =>
      obtain ⟨myView, theirView⟩ := sound.views side
      have led := (Sided.leading_iff leading).mp myView
      have following := theirs.phase.trans (led.untold rfl)
      have unnoticed : (before.party side).notices = 0 := by
        by_contra given
        obtain ⟨-, -, told, -⟩ := led.noticed (Nat.one_le_iff_ne_zero.mpr given)
        cases told
      refine .of_views side ?_ (theirView.still_following (led.untold rfl) theirs)
        (by simp [still.pending, carriedOut])
      rw [still.pending, still.ledger, Sided.leading_iff leads]
      constructor
      case unasked => exact consent
      case untold => exact nofun
      case alone =>
        intro other told leading
        cases following.symm.trans leading
      case noticed => exact fun given => ⟨by omega, carriedOut, rfl, following⟩
      case acknowledged => exact fun acknowledges => absurd acknowledges acknowledged
      case committed => exact led.committed
  | conclude side following holds mine theirs consent notices still =>
      obtain ⟨myView, theirView⟩ := sound.views side
      obtain ⟨unasked, unnoticed, unacknowledged⟩ := (Sided.following_iff following).mp myView
      -- the notice acted on was the last one, of a deal the ledger has carried out
      obtain ⟨one, idle, led, leads, follows⟩ := theirView.noticed (Nat.le_of_add_left_le notices)
      cases following.symm.trans follows
      have leader := (Sided.leading_iff leads).mp theirView
      have empty : after.pending = [] := still.pending.trans idle
      have none := mine.unasked unasked
      refine .of_views side ?_ ?_ (by simp [empty])
      · refine (Sided.stable_iff holds).mpr ⟨?_, mine.unnoticed unnoticed, ?_, ?_⟩
        · exact fun other asked => by cases none.symm.trans asked
        · exact fun acknowledges => unacknowledged (mine.acknowledged acknowledges)
        · rw [still.ledger, leader.committed idle]
      · rw [Sided.leading_iff (theirs.trans leads)]
        constructor
        case unasked =>
          exact Option.eq_none_iff_forall_ne_some.mpr fun other asked => by
            cases leader.unasked.symm.trans (consent other asked)
        case untold => exact nofun
        case alone =>
          intro other told leading
          cases holds.symm.trans leading
        case noticed => exact fun given => by omega
        case acknowledged => exact fun _ => ⟨by omega, empty, rfl⟩
        case committed => exact fun _ => by rw [still.ledger, leader.committed idle]
  | finish side leading acknowledged holds mine used theirs still =>
      obtain ⟨myView, theirView⟩ := sound.views side
      have led := (Sided.leading_iff leading).mp myView
      obtain ⟨unnoticed, idle, -⟩ := led.acknowledged acknowledged
      have none := mine.unasked led.unasked
      refine .of_views side ?_ ?_ (by simp [still.pending, idle])
      · refine (Sided.stable_iff holds).mpr ⟨?_, mine.unnoticed unnoticed, used, ?_⟩
        · exact fun other asked => by cases none.symm.trans asked
        · rw [still.ledger, led.committed idle]
      · rw [still.pending, still.ledger]
        exact theirView.beside myView leading theirs

/-! ### Handovers that nothing carries on -/

/-- Nothing is on its way, no leader waits for the ledger, and this party holds no
value. -/
structure Stuck (handover : Handover V W) (side : Side) : Prop where
  unstable : ∀ value, (handover.party side).phase ≠ .stable value
  told : ∀ side deal, (handover.party side).phase ≠ .leading deal false
  unasked : ∀ side, (handover.party side).consent = none
  unnoticed : ∀ side, (handover.party side).notices = 0
  unacknowledged : ∀ side, ¬ (handover.party side).acknowledged

/-- Lost messages leave nothing on its way. -/
theorem Stuck.of_phases {side : Side} (stuck : before.Stuck side)
    (loses : ∀ second, (before.party second).Loses (after.party second))
    (unstable : ∀ value, (after.party side).phase ≠ .stable value)
    (told : ∀ second deal, (after.party second).phase ≠ .leading deal false) :
    after.Stuck side where
  unstable := unstable
  told := told
  unasked second := (loses second).unasked (stuck.unasked second)
  unnoticed second := (loses second).unnoticed (stuck.unnoticed second)
  unacknowledged second acknowledged :=
    stuck.unacknowledged second ((loses second).acknowledged acknowledged)

/-- A stuck handover stays stuck: only its other party can move, into another deal. -/
theorem Stuck.step {side : Side} (stuck : before.Stuck side) (step : Step outcome before after) :
    after.Stuck side := by
  cases step with
  | stay parties | commit parties =>
      refine stuck.of_phases (fun second => (parties second).toLoses) ?_ ?_
      · rw [(parties side).phase]
        exact stuck.unstable
      · intro second
        rw [(parties second).phase]
        exact stuck.told second
  | follow acting stable follows mine unasked theirs consents notices acknowledged =>
      rcases side.eq_or_eq_other acting with rfl | rfl
      · exact absurd stable (stuck.unstable _)
      rw [Side.other_other] at theirs consents notices acknowledged
      refine stuck.of_phases ((side.forall_iff).mpr ⟨⟨?_, notices, acknowledged⟩, mine⟩) ?_
        ((side.forall_iff).mpr ⟨?_, ?_⟩)
      · intro deal consent
        refine (consents deal consent).resolve_right ?_
        rintro ⟨-, value, holds⟩
        exact stuck.unstable value holds
      · rw [theirs]
        exact stuck.unstable
      · rw [theirs]
        exact stuck.told side
      · rw [follows]
        exact nofun
  | lead acting _ consent =>
      rw [stuck.unasked acting] at consent
      cases consent
  | abandon acting leading leads mine theirs =>
      refine stuck.of_phases ((acting.forall_iff).mpr ⟨mine, theirs.toLoses⟩) ?_
        ((acting.forall_iff).mpr ⟨?_, ?_⟩)
      · rcases acting.eq_or_eq_other side with rfl | rfl
        · rw [leads]
          exact nofun
        · rw [theirs.phase]
          exact stuck.unstable
      · rw [leads]
        exact nofun
      · rw [theirs.phase]
        exact stuck.told acting.other
  | notify acting leading => exact absurd leading (stuck.told acting _)
  | conclude acting following holds mine theirs consent notices =>
      rw [stuck.unnoticed acting.other] at notices
      exact absurd notices (Nat.not_succ_le_zero _)
  | finish acting leading acknowledged => exact absurd acknowledged (stuck.unacknowledged acting)

end Handover

end Guac.Foundation
