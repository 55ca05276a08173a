import Guac.Network.Mesh

/-!
Owns what the pairs of a mesh have to do with each other. Every step of the mesh is a step
of the network of one pair, and leaves that of every other pair as it is; a pair can take
every step its own network takes, other than mining, where the account of a node and its
nonces are shared by all its pairs.
-/

set_option autoImplicit false

namespace Guac

open Foundation

/-! ### What the contract mines -/

section Mined

variable {chain : Chain} {pair : Ends} {tx : NewChannelTx} {channelId : Bytes32}

theorem hasOpened_of_share {opening : NewChannelTx}
    (opened : (opening, channelId) ∈ (chain.share pair).opened) :
    chain.hasOpened pair.first pair.second channelId := by
  obtain ⟨opened, first, second⟩ := mem_share_opened.mp opened
  exact ⟨_, opened, first, second, rfl⟩

theorem chain_ext {first second : Chain} (opened : first.opened = second.opened)
    (submitted : first.submitted = second.submitted) (reDrawn : first.reDrawn = second.reDrawn)
    (locked : first.locked = second.locked) : first = second := by
  cases first
  cases second
  cases opened
  cases submitted
  cases reDrawn
  cases locked
  rfl

theorem filter_erase_of_not {α : Type} [DecidableEq α] {holds : α → Bool} {items : List α}
    {item : α} (fails : holds item = false) :
    (items.erase item).filter holds = items.filter holds := by
  rw [← List.erase_filter]
  refine List.erase_of_not_mem fun member => ?_
  rw [(List.mem_filter.mp member).2] at fails
  cases fails

theorem hasOpened_opens {id : Bytes32} :
    (chain.opens tx channelId).hasOpened pair.first pair.second id ↔
      chain.hasOpened pair.first pair.second id ∨ pair.names tx ∧ channelId = id := by
  unfold Chain.hasOpened Chain.opens
  simp only [List.mem_append, List.mem_singleton, or_and_right, exists_or, exists_eq_left,
    Ends.names, and_assoc]

theorem share_opens_other (others : ¬ pair.names tx)
    (unused : ∀ opening ∈ chain.opened, opening.2 ≠ channelId) :
    (chain.opens tx channelId).share pair = chain.share pair := by
  have opened : ∀ id, (chain.opens tx channelId).hasOpened pair.first pair.second id ↔
      chain.hasOpened pair.first pair.second id := by
    intro id
    rw [hasOpened_opens]
    exact or_iff_left fun names => others names.1
  have concerns : (chain.opens tx channelId).concerns pair = chain.concerns pair := by
    funext deal
    cases deal with
    | opening => rfl
    | reDraw reDrawTx => exact propext (opened reDrawTx.channelId)
  unfold Chain.share
  simp only [opened, concerns]
  simp only [Chain.opens, List.filter_append, List.filter_cons, others, decide_false,
    List.filter_nil, List.append_nil, Bool.false_eq_true, if_false]
  congr 1
  · exact filter_erase_of_not (decide_eq_false others)
  · funext id
    split
    next has =>
      obtain ⟨opening, member, -, -, rfl⟩ := has
      exact Function.update_of_ne (unused opening member) ..
    next => rfl

theorem share_opens (named : pair.names tx)
    (submitted : ∀ reDrawTx, .reDraw reDrawTx ∈ chain.submitted → reDrawTx.channelId ≠ channelId)
    (reDrawn : ∀ reDrawTx ∈ chain.reDrawn, reDrawTx.channelId ≠ channelId) :
    (chain.opens tx channelId).share pair = (chain.share pair).opens tx channelId := by
  have opened (id : Bytes32) : (chain.opens tx channelId).hasOpened pair.first pair.second id ↔
      chain.hasOpened pair.first pair.second id ∨ channelId = id := by
    rw [hasOpened_opens, and_iff_right named]
  have concerns : ∀ deal ∈ chain.submitted,
      decide ((chain.opens tx channelId).concerns pair deal) =
        decide (chain.concerns pair deal) := by
    intro deal member
    cases deal with
    | opening => rfl
    | reDraw reDrawTx =>
        refine decide_eq_decide.mpr ((opened reDrawTx.channelId).trans (or_iff_left ?_))
        exact fun same => submitted reDrawTx member same.symm
  have fresh : ∀ reDrawTx ∈ chain.reDrawn,
      decide ((chain.opens tx channelId).hasOpened pair.first pair.second reDrawTx.channelId) =
        decide (chain.hasOpened pair.first pair.second reDrawTx.channelId) := by
    intro reDrawTx member
    refine decide_eq_decide.mpr ((opened reDrawTx.channelId).trans (or_iff_left ?_))
    exact fun same => reDrawn reDrawTx member same.symm
  have locked : ((chain.opens tx channelId).share pair).locked =
      Function.update (chain.share pair).locked channelId tx.total := by
    funext id
    by_cases same : id = channelId
    · subst same
      rw [Function.update_self]
      exact (if_pos ((opened id).mpr (.inr rfl))).trans (Function.update_self ..)
    · rw [Function.update_of_ne same]
      refine if_congr ((opened id).trans (or_iff_left ?_)) (Function.update_of_ne same ..) rfl
      exact fun equal => same equal.symm
  have mined : ((chain.opens tx channelId).share pair).opened =
      (chain.share pair).opened ++ [(tx, channelId)] := by
    simp only [Chain.share, Chain.opens, List.filter_append, List.filter_cons, named, decide_true,
      List.filter_nil, if_true]
  have pending : ((chain.opens tx channelId).share pair).submitted =
      (chain.share pair).submitted.erase (.opening tx) := by
    refine Eq.trans (List.filter_congr fun deal member => ?_) List.erase_filter.symm
    exact concerns deal (List.mem_of_mem_erase member)
  have kept : ((chain.opens tx channelId).share pair).reDrawn = (chain.share pair).reDrawn :=
    List.filter_congr fresh
  exact chain_ext mined pending kept locked

theorem share_reDraws_other {tx : ReDrawTx}
    (others : ¬ chain.hasOpened pair.first pair.second tx.channelId) :
    (chain.reDraws tx).share pair = chain.share pair := by
  have opened : (chain.reDraws tx).hasOpened = chain.hasOpened := rfl
  have concerns : (chain.reDraws tx).concerns = chain.concerns := by
    funext pair deal
    cases deal <;> rfl
  unfold Chain.share
  simp only [opened, concerns]
  simp only [Chain.reDraws, List.filter_append, List.filter_cons, others, decide_false,
    List.filter_nil, List.append_nil, Bool.false_eq_true, if_false]
  congr 1
  · exact filter_erase_of_not (decide_eq_false others)
  · funext id
    split
    next has =>
      refine Function.update_of_ne ?_ ..
      rintro rfl
      exact others has
    next => rfl

theorem share_reDraws {tx : ReDrawTx}
    (named : chain.hasOpened pair.first pair.second tx.channelId) :
    (chain.reDraws tx).share pair = (chain.share pair).reDraws tx := by
  have opened : (chain.reDraws tx).hasOpened = chain.hasOpened := rfl
  have concerns : (chain.reDraws tx).concerns = chain.concerns := by
    funext pair deal
    cases deal <;> rfl
  have locked : ((chain.reDraws tx).share pair).locked =
      Function.update (chain.share pair).locked tx.channelId tx.newTotal := by
    funext id
    by_cases same : id = tx.channelId
    · subst same
      rw [Function.update_self]
      exact (if_pos named).trans (Function.update_self ..)
    · rw [Function.update_of_ne same]
      exact if_congr Iff.rfl (Function.update_of_ne same ..) rfl
  have mined : ((chain.reDraws tx).share pair).reDrawn = (chain.share pair).reDrawn ++ [tx] := by
    simp only [Chain.share, opened]
    simp only [Chain.reDraws, List.filter_append, List.filter_cons, named, decide_true,
      List.filter_nil, if_true]
  have pending : ((chain.reDraws tx).share pair).submitted =
      (chain.share pair).submitted.erase (.reDraw tx) := by
    simp only [Chain.share, concerns]
    exact List.erase_filter.symm
  exact chain_ext rfl pending mined locked

end Mined

/-! ### Every step is one of a pair -/

theorem Network.Solvent.concerns {pair : Ends} {members : Members} {network : Network}
    {deal : Deal} (solvent : Network.Solvent (pair.parties members) network)
    (named : Network.Named (pair.parties members) network)
    (pending : deal ∈ network.chain.submitted) :
    match deal with
    | .opening tx => pair.names tx
    | .reDraw tx => ∃ opening, (opening, tx.channelId) ∈ network.chain.opened := by
  obtain ⟨-, side, done, leading, -, -⟩ := solvent.handed.pending _ pending
  cases deal with
  | reDraw tx => exact solvent.reDraw_channel leading
  | opening tx =>
      change (network.node side).phase = .leading (.opening tx) done at leading
      rw [Node.phase] at leading
      cases entry : (network.node side).entry with
      | none =>
          rw [entry] at leading
          cases leading
      | some counterparty =>
          rw [entry] at leading
          cases counterparty with
          | creating =>
              cases leading
              exact named.names (solvent.sound.creating_signed entry)
          | new | otherCreating | reDrawing | otherReDrawing | opened => cases leading

namespace Mesh

variable {members : Members} {mesh after : Mesh} {event : MeshEvent} {pair other : Ends}
  {side second : Side}

/-- The invariant of a mesh: that of every pair, no entry for oneself, and channels by their
ids. -/
structure Sound (members : Members) (mesh : Mesh) : Prop where
  solvent : ∀ pair, Network.Solvent (pair.parties members) (mesh.seen pair)
  named : ∀ pair, Network.Named (pair.parties members) (mesh.seen pair)
  alone : ∀ own, mesh.storage own own = .fresh
  ordered : ∀ opening ∈ mesh.chain.opened, opening.1.address0 < opening.1.address1
  ids : ∀ first ∈ mesh.chain.opened, ∀ second ∈ mesh.chain.opened,
    first.2 = second.2 → first = second
  submitted : ∀ tx, .reDraw tx ∈ mesh.chain.submitted →
    ∃ opening ∈ mesh.chain.opened, opening.2 = tx.channelId
  reDrawn : ∀ tx ∈ mesh.chain.reDrawn, ∃ opening ∈ mesh.chain.opened, opening.2 = tx.channelId

theorem Sound.opened_unique (sound : Sound members mesh) {channelId : Bytes32}
    (opened : mesh.chain.hasOpened pair.first pair.second channelId)
    (otherOpened : mesh.chain.hasOpened other.first other.second channelId) : pair = other := by
  obtain ⟨opening, member, first, last, rfl⟩ := opened
  obtain ⟨otherOpening, otherMember, otherFirst, otherLast, same⟩ := otherOpened
  obtain rfl := sound.ids _ otherMember _ member same
  exact Ends.names_unique ⟨first, last⟩ ⟨otherFirst, otherLast⟩

theorem Sound.concerns_unique (sound : Sound members mesh) {deal : Deal}
    (concerns : mesh.chain.concerns pair deal)
    (otherConcerns : mesh.chain.concerns other deal) : pair = other := by
  cases deal with
  | opening => exact Ends.names_unique concerns otherConcerns
  | reDraw => exact sound.opened_unique concerns otherConcerns

/-- A transaction is signed for one pair only. -/
theorem Sound.signed_unique (sound : Sound members mesh) {tx : SignedTx}
    (signed : tx ∈ ((mesh.seen pair).node side).signed)
    (otherSigned : tx ∈ ((mesh.seen other).node second).signed) : pair = other := by
  cases names : tx.channelId with
  | none =>
      cases tx with
      | newChannel =>
          exact Ends.names_unique ((sound.named pair).names signed)
            ((sound.named other).names otherSigned)
      | reDraw | update => cases names
  | some channelId =>
      obtain ⟨opening, opened⟩ := (sound.named pair).channel _ _ _ signed names
      obtain ⟨otherOpening, otherOpened⟩ := (sound.named other).channel _ _ _ otherSigned names
      exact sound.opened_unique (hasOpened_of_share opened) (hasOpened_of_share otherOpened)

theorem Sound.signer (sound : Sound members mesh) {own : Address} {tx : SignedTx}
    (signed : mesh.signedBy members own tx) :
    ∃ (pair : Ends) (side : Side), pair.address side = own ∧
      tx ∈ ((mesh.seen pair).node side).signed := by
  obtain ⟨their, -, member⟩ := signed
  have different : own ≠ their := by
    rintro rfl
    rw [sound.alone own] at member
    cases member
  obtain ⟨pair, side, rfl, rfl⟩ := Ends.exists_of_ne different
  exact ⟨pair, side, rfl, member⟩

/-- What both nodes of a pair signed anywhere and one of them for the other, they signed for
each other. -/
theorem Sound.bothSigned (sound : Sound members mesh) {tx : SignedTx}
    (signed : tx ∈ ((mesh.seen pair).node side).signed)
    (first : mesh.signedBy members pair.first tx)
    (last : mesh.signedBy members pair.second tx) : (mesh.seen pair).bothSigned tx := by
  constructor
  · obtain ⟨other, second, own, member⟩ := sound.signer first
    obtain rfl := sound.signed_unique signed member
    cases second with
    | a => exact member
    | b => exact absurd own.symm Ends.first_ne
  · obtain ⟨other, second, own, member⟩ := sound.signer last
    obtain rfl := sound.signed_unique signed member
    cases second with
    | a => exact absurd own Ends.first_ne
    | b => exact member

theorem Sound.call_concerns (sound : Sound members mesh) {call : ChainCall}
    (holds : ((mesh.seen pair).node side).running.map Running.call = some (.chain call)) :
    call.Concerns mesh.chain pair := by
  have coherent := (sound.solvent pair).sound.coherent side
  obtain ⟨⟨operation, _, closure⟩, running, rfl⟩ := Option.map_eq_some_iff.mp holds
  obtain ⟨counterparty, entry, held⟩ := coherent.held _ running
  have backed := coherent.backed
  rw [entry] at backed
  cases held with
  | fillNewBlock | reDrawBlock | checkedReDraw => trivial
  | fillNewDeposited _ _ _ _ _ proposed =>
      subst proposed
      obtain ⟨rfl, -⟩ := backed
      exact ⟨Ends.party0 members side, Ends.party1 members side⟩
  | reDrawSubmitted kind _ channel _ _ _ proposes =>
      obtain ⟨opening, opened⟩ := (sound.solvent pair).chained.channels side channel
        (by rw [Node.channel, entry]; rfl)
      have named := hasOpened_of_share opened
      rw [← proposes.channelId] at named
      cases kind <;> exact named
  | checkedOpen =>
      obtain ⟨rfl, -⟩ := backed
      exact ⟨Ends.party0 members side, Ends.party1 members side⟩

/-- What a step of the mesh is: a step of one pair, which no other pair notices. -/
structure Moves (members : Members) (mesh after : Mesh) (event : MeshEvent) (pair : Ends)
    (seen : NetworkEvent) : Prop where
  sees : event.seenBy pair = some seen
  stepped : (mesh.seen pair).step (pair.parties members) seen = some (after.seen pair)
  blind : ∀ other, other ≠ pair → event.seenBy other = none
  kept : ∀ other, other ≠ pair → after.seen other = mesh.seen other

theorem Sound.moves_between (sound : Sound members mesh) {between : NetworkEvent}
    {network : Network} (quiet : between.mines = false)
    (stepped : (mesh.view pair).step (pair.parties members) between = some network) :
    Moves members mesh (mesh.put pair network) (.between pair between) pair between ∧
      ∃ handed, network.chain =
          { mesh.chain with submitted := mesh.chain.submitted ++ handed } ∧
        ∀ deal ∈ handed, mesh.chain.concerns pair deal := by
  obtain ⟨handed, changed, goes⟩ := Network.step_frame stepped quiet
  change network.chain =
    { mesh.chain with submitted := mesh.chain.submitted ++ handed } at changed
  have seen := goes (mesh.chain.share pair) fun side call answer holds answers =>
    (mayAnswer_share (sound.call_concerns holds)).trans answers
  change (mesh.seen pair).step (pair.parties members) between = some _ at seen
  have solvent := (sound.solvent pair).step seen
  have named := (sound.named pair).step (sound.solvent pair).sound solvent.chained seen
  have concerned : ∀ deal ∈ handed, mesh.chain.concerns pair deal := by
    intro deal member
    have concerns := solvent.concerns named (List.mem_append_right _ member)
    cases deal with
    | opening => exact concerns
    | reDraw =>
        obtain ⟨opening, opened⟩ := concerns
        exact hasOpened_of_share opened
  refine ⟨⟨if_pos rfl, ?_, fun other different => if_neg different.symm, ?_⟩, handed, changed,
    concerned⟩
  · have whole : (handed.filter fun deal => mesh.chain.concerns pair deal) = handed :=
      List.filter_eq_self.mpr fun deal member => decide_eq_true (concerned deal member)
    rw [seen_put, changed, share_submit, whole]
    exact seen
  · intro other different
    have nothing : (handed.filter fun deal => mesh.chain.concerns other deal) = [] := by
      refine List.filter_eq_nil_iff.mpr fun deal member concerns => different ?_
      exact sound.concerns_unique (of_decide_eq_true concerns) (concerned deal member)
    rw [seen_put_other different, changed, share_submit, nothing, List.append_nil]
    rfl

theorem Sound.moves_mineNewChannel (sound : Sound members mesh) {tx : NewChannelTx}
    {channelId : Bytes32} (first : mesh.signedBy members tx.address0 (.newChannel tx))
    (last : mesh.signedBy members tx.address1 (.newChannel tx))
    (unused : ∀ opening ∈ mesh.chain.opened, opening.1 ≠ tx ∧ opening.2 ≠ channelId) :
    ∃ pair, pair.names tx ∧
      Moves members mesh { mesh with chain := mesh.chain.opens tx channelId }
        (.mineNewChannel tx channelId) pair (.mineNewChannel tx channelId) := by
  obtain ⟨pair, side, -, signed⟩ := sound.signer first
  have names := (sound.named pair).names signed
  rw [names.1] at first
  rw [names.2] at last
  have both := sound.bothSigned signed first last
  have unnamed : ∀ other, other ≠ pair → ¬ other.names tx := fun other different others =>
    different (Ends.names_unique others names)
  have submitted : ∀ reDrawTx, .reDraw reDrawTx ∈ mesh.chain.submitted →
      reDrawTx.channelId ≠ channelId := by
    rintro reDrawTx pending rfl
    obtain ⟨opening, opened, same⟩ := sound.submitted reDrawTx pending
    exact (unused opening opened).2 same
  have reDrawn : ∀ reDrawTx ∈ mesh.chain.reDrawn, reDrawTx.channelId ≠ channelId := by
    rintro reDrawTx mined rfl
    obtain ⟨opening, opened, same⟩ := sound.reDrawn reDrawTx mined
    exact (unused opening opened).2 same
  refine ⟨pair, names, if_pos names, ?_, fun other different => if_neg (unnamed other different),
    ?_⟩
  · have free := (@Chain.unused_iff (mesh.chain.share pair) tx channelId).mp
      fun opening member => unused opening (mem_share_opened.mp member).1
    rw [Network.step_of_change (.opened both free.1 free.2)]
    unfold seen
    rw [share_opens names submitted reDrawn]
    rfl
  · intro other different
    unfold seen
    rw [share_opens_other (unnamed other different) fun opening member => (unused opening member).2]
    rfl

theorem Sound.moves_mineReDraw (sound : Sound members mesh) {opening : NewChannelTx}
    {tx : ReDrawTx} (submitted : .reDraw tx ∈ mesh.chain.submitted)
    (opened : (opening, tx.channelId) ∈ mesh.chain.opened)
    (first : mesh.signedBy members opening.address0 (.reDraw tx))
    (last : mesh.signedBy members opening.address1 (.reDraw tx)) :
    ∃ pair, pair.names opening ∧
      Moves members mesh { mesh with chain := mesh.chain.reDraws tx }
        (.mineReDraw opening tx) pair (.mineReDraw tx) := by
  obtain ⟨pair, side, -, signed⟩ := sound.signer first
  obtain ⟨_, sharedOpening⟩ := (sound.named pair).channel _ _ _ signed rfl
  have has := hasOpened_of_share sharedOpening
  have names : pair.names opening := by
    obtain ⟨sameOpening, member, first, last, same⟩ := has
    obtain rfl := sound.ids _ member _ opened same
    exact ⟨first, last⟩
  rw [names.1] at first
  rw [names.2] at last
  have both := sound.bothSigned signed first last
  refine ⟨pair, names, if_pos names, ?_, ?_, ?_⟩
  · have pending := mem_share_submitted.mpr ⟨submitted, has⟩
    rw [Network.step_of_change (.reDrawn pending both)]
    unfold seen
    rw [share_reDraws has]
    rfl
  · exact fun other different => if_neg fun others => different (Ends.names_unique others names)
  · intro other different
    unfold seen
    rw [share_reDraws_other fun others => different (sound.opened_unique others has)]
    rfl

/-- A step of one pair keeps what holds of every pair. -/
theorem Moves.sound {seen : NetworkEvent} (moves : Moves members mesh after event pair seen)
    (sound : Sound members mesh) :
    (∀ pair, Network.Solvent (pair.parties members) (after.seen pair)) ∧
      ∀ pair, Network.Named (pair.parties members) (after.seen pair) := by
  have solvent := (sound.solvent pair).step moves.stepped
  constructor
  · intro other
    by_cases same : other = pair
    · rwa [same]
    · rw [moves.kept other same]
      exact sound.solvent other
  · intro other
    by_cases same : other = pair
    · rw [same]
      exact (sound.named pair).step (sound.solvent pair).sound solvent.chained moves.stepped
    · rw [moves.kept other same]
      exact sound.named other

theorem Sound.of_put (sound : Sound members mesh) {seen : NetworkEvent} {network : Network}
    {handed : List Deal} (moves : Moves members mesh (mesh.put pair network) event pair seen)
    (changed : network.chain = { mesh.chain with submitted := mesh.chain.submitted ++ handed })
    (concerned : ∀ deal ∈ handed, mesh.chain.concerns pair deal) :
    Sound members (mesh.put pair network) := by
  obtain ⟨solvent, named⟩ := moves.sound sound
  have opened : network.chain.opened = mesh.chain.opened := by rw [changed]
  refine ⟨solvent, named, ?_, ?_, ?_, ?_, ?_⟩
  · intro own
    refine (Ends.spread_of_ne ?_).trans (sound.alone own)
    exact fun side same => Ends.address_ne side (same.1.symm.trans same.2)
  · exact fun opening member => sound.ordered opening (opened ▸ member)
  · exact fun first inFirst second inSecond =>
      sound.ids first (opened ▸ inFirst) second (opened ▸ inSecond)
  · intro tx pending
    change _ ∈ network.chain.submitted at pending
    change ∃ opening ∈ network.chain.opened, _
    rw [opened]
    rw [changed] at pending
    rcases List.mem_append.mp pending with earlier | hands
    · exact sound.submitted tx earlier
    · obtain ⟨opening, member, -, -, same⟩ := concerned _ hands
      exact ⟨opening, member, same⟩
  · intro tx mined
    change _ ∈ network.chain.reDrawn at mined
    change ∃ opening ∈ network.chain.opened, _
    rw [opened]
    rw [changed] at mined
    exact sound.reDrawn tx mined

theorem Sound.of_opens (sound : Sound members mesh) {seen : NetworkEvent} {tx : NewChannelTx}
    {channelId : Bytes32}
    (moves : Moves members mesh { mesh with chain := mesh.chain.opens tx channelId } event pair
      seen)
    (names : pair.names tx)
    (unused : ∀ opening ∈ mesh.chain.opened, opening.1 ≠ tx ∧ opening.2 ≠ channelId) :
    Sound members { mesh with chain := mesh.chain.opens tx channelId } := by
  obtain ⟨solvent, named⟩ := moves.sound sound
  have grows : ∀ {id : Bytes32}, (∃ opening ∈ mesh.chain.opened, opening.2 = id) →
      ∃ opening ∈ mesh.chain.opened ++ [(tx, channelId)], opening.2 = id :=
    fun ⟨opening, member, same⟩ => ⟨opening, List.mem_append_left _ member, same⟩
  refine ⟨solvent, named, sound.alone, ?_, ?_, ?_, ?_⟩
  · intro opening member
    rcases List.mem_append.mp member with earlier | new
    · exact sound.ordered opening earlier
    · obtain rfl := List.mem_singleton.mp new
      rw [names.1, names.2]
      exact pair.ordered
  · intro opening member other otherMember same
    rcases List.mem_append.mp member with earlier | new <;>
      rcases List.mem_append.mp otherMember with otherEarlier | otherNew
    · exact sound.ids _ earlier _ otherEarlier same
    · obtain rfl := List.mem_singleton.mp otherNew
      exact absurd same (unused _ earlier).2
    · obtain rfl := List.mem_singleton.mp new
      exact absurd same.symm (unused _ otherEarlier).2
    · exact (List.mem_singleton.mp new).trans (List.mem_singleton.mp otherNew).symm
  · exact fun reDrawTx pending => grows (sound.submitted _ (List.mem_of_mem_erase pending))
  · exact fun reDrawTx mined => grows (sound.reDrawn _ mined)

theorem Sound.of_reDraws (sound : Sound members mesh) {seen : NetworkEvent}
    {opening : NewChannelTx} {tx : ReDrawTx}
    (moves : Moves members mesh { mesh with chain := mesh.chain.reDraws tx } event pair seen)
    (found : (opening, tx.channelId) ∈ mesh.chain.opened) :
    Sound members { mesh with chain := mesh.chain.reDraws tx } := by
  obtain ⟨solvent, named⟩ := moves.sound sound
  refine ⟨solvent, named, sound.alone, sound.ordered, sound.ids, ?_, ?_⟩
  · exact fun other pending => sound.submitted other (List.mem_of_mem_erase pending)
  · intro other mined
    rcases List.mem_append.mp mined with earlier | new
    · exact sound.reDrawn other earlier
    · obtain rfl := List.mem_singleton.mp new
      exact ⟨_, found, rfl⟩

/-- Every step of the mesh is a step of one pair. -/
theorem Sound.moves (sound : Sound members mesh) (stepped : mesh.step members event = some after) :
    (∃ pair seen, Moves members mesh after event pair seen) ∧ Sound members after := by
  cases event with
  | between pair between =>
      simp only [step] at stepped
      split at stepped
      next allowed =>
        obtain ⟨network, moved, rfl⟩ := Option.map_eq_some_iff.mp stepped
        obtain ⟨moves, handed, changed, concerned⟩ := sound.moves_between allowed.1 moved
        exact ⟨⟨pair, between, moves⟩, sound.of_put moves changed concerned⟩
      next => cases stepped
  | mineNewChannel tx channelId =>
      simp only [step] at stepped
      split at stepped
      next allowed =>
        obtain rfl := Option.some.inj stepped
        obtain ⟨first, last, unused⟩ := allowed
        obtain ⟨pair, names, moves⟩ := sound.moves_mineNewChannel first last unused
        exact ⟨⟨pair, _, moves⟩, sound.of_opens moves names unused⟩
      next => cases stepped
  | mineReDraw opening tx =>
      simp only [step] at stepped
      split at stepped
      next allowed =>
        obtain rfl := Option.some.inj stepped
        obtain ⟨pending, ⟨opened, member, rfl, named⟩, first, last⟩ := allowed
        have found : (opened.1, tx.channelId) ∈ mesh.chain.opened := by
          rw [← named]
          exact member
        obtain ⟨pair, -, moves⟩ := sound.moves_mineReDraw pending found first last
        exact ⟨⟨pair, _, moves⟩, sound.of_reDraws moves found⟩
      next => cases stepped

theorem sound_fresh : Sound members fresh where
  solvent _ := Network.solvent_fresh
  named _ := Network.named_fresh
  alone _ := rfl
  ordered := nofun
  ids := nofun
  submitted := nofun
  reDrawn := nofun

theorem sound_of_replay {events : List MeshEvent}
    (replayed : (machine members).replay fresh events = some mesh) : Sound members mesh :=
  (Machine.run_of_replay replayed).invariant (Sound members) sound_fresh
    fun _ _ _ sound stepped => (sound.moves stepped).2

/-- The mesh simulates the network of every pair. -/
theorem simulation (members : Members) (pair : Ends) :
    Simulation (machine members) (Network.machine (pair.parties members))
      (MeshEvent.seenBy pair)
      (fun mesh network => Sound members mesh ∧ mesh.seen pair = network) := by
  rintro mesh after _ event ⟨sound, rfl⟩ stepped
  obtain ⟨⟨mover, seen, moves⟩, afterwards⟩ := sound.moves stepped
  by_cases same : pair = mover
  · subst same
    rw [moves.sees]
    exact ⟨_, moves.stepped, afterwards, rfl⟩
  · rw [moves.blind pair same]
    exact ⟨afterwards, moves.kept pair same⟩

/-- Whatever any number of nodes do, every two of them go through a run of their own
network: the events that are theirs, and nothing of what the others do. -/
theorem pairs_apart {events : List MeshEvent}
    (replayed : (machine members).replay fresh events = some mesh) (pair : Ends) :
    (Network.machine (pair.parties members)).replay Network.fresh
      (events.filterMap (MeshEvent.seenBy pair)) = some (mesh.seen pair) := by
  obtain ⟨network, replay, -, same⟩ :=
    (simulation members pair).replay ⟨sound_fresh, rfl⟩ replayed
  rw [same]
  exact replay

/-- Of all that nodes 1, 2 and 3 do, nodes 1 and 3 go through their own part. -/
theorem pairs_apart_sample :
    ∃ mesh ∈ (machine Sample.members).replay fresh (Sample.openingTwo ++ Sample.openingThree),
      (Network.machine (Sample.oneThree.parties Sample.members)).replay Network.fresh
        (Sample.filling ++ .mineNewChannel (proposedChannel (Sample.crypto 1) 3 true 20 41) 8 ::
          Sample.filled) = some (mesh.seen Sample.oneThree) := by
  obtain ⟨mesh, reached⟩ := Option.isSome_iff_exists.mp (show ((machine Sample.members).replay
    fresh (Sample.openingTwo ++ Sample.openingThree)).isSome from by decide +kernel)
  exact ⟨mesh, reached, pairs_apart reached Sample.oneThree⟩

/-! ### What a pair can do alone -/

theorem Sound.unhindered (sound : Sound members mesh) (within : pair.Within members)
    {seen : NetworkEvent} {network : Network}
    (stepped : (mesh.seen pair).step (pair.parties members) seen = some network)
    (quiet : seen.mines = false) :
    ∃ after, mesh.step members (.between pair seen) = some after ∧ after.seen pair = network ∧
      Moves members mesh after (.between pair seen) pair seen := by
  obtain ⟨handed, -, goes⟩ := Network.step_frame stepped quiet
  have viewed := goes mesh.chain fun side call answer holds answers =>
    (mayAnswer_share (sound.call_concerns holds)).symm.trans answers
  change (mesh.view pair).step (pair.parties members) seen = some _ at viewed
  obtain ⟨moves, -⟩ := sound.moves_between quiet viewed
  refine ⟨_, ?_, Option.some.inj (moves.stepped.symm.trans stepped), moves⟩
  refine (if_pos ⟨quiet, within⟩).trans ?_
  rw [viewed]
  rfl

/-- Two nodes of a mesh can go on as in a network of their own, whatever the others did: as
long as nothing is mined, every continuation of their network is one of the mesh, step by
step, and changes nothing for any other pair. What is mined depends on the others too: the
transactions of a node share one account. -/
theorem pair_unhindered {events : List MeshEvent} {rest : List NetworkEvent} {network : Network}
    (replayed : (machine members).replay fresh events = some mesh) (within : pair.Within members)
    (goes : (Network.machine (pair.parties members)).replay (mesh.seen pair) rest = some network)
    (quiet : ∀ event ∈ rest, event.mines = false) :
    ∃ last, (machine members).replay mesh (rest.map (.between pair)) = some last ∧
      last.seen pair = network ∧ ∀ other, other ≠ pair → last.seen other = mesh.seen other := by
  have sound := sound_of_replay replayed
  clear replayed
  induction rest generalizing mesh with
  | nil =>
      obtain rfl := Option.some.inj goes
      exact ⟨mesh, rfl, rfl, fun _ _ => rfl⟩
  | cons seen rest inductionHypothesis =>
      obtain ⟨middle, stepped, goes⟩ := Machine.replay_cons.mp goes
      obtain ⟨after, moved, rfl, moves⟩ :=
        sound.unhindered within stepped (quiet seen List.mem_cons_self)
      obtain ⟨last, replay, reached, kept⟩ := inductionHypothesis goes
        (fun event member => quiet event (List.mem_cons_of_mem _ member)) (sound.moves moved).2
      refine ⟨last, Machine.replay_cons.mpr ⟨after, moved, replay⟩, reached, ?_⟩
      intro other different
      exact (kept other different).trans (moves.kept other different)

/-- Nodes 1 and 3 complete the channel that was mined for them, and nodes 1 and 2 notice
nothing of it. -/
theorem pair_unhindered_sample :
    ∃ mesh ∈ (machine Sample.members).replay fresh (Sample.openingTwo ++
        [.mineNewChannel (proposedChannel (Sample.crypto 1) 3 true 20 41) 8]),
      ∃ last ∈ (machine Sample.members).replay mesh (Sample.filled.map (.between Sample.oneThree)),
        (∃ channel, (last.storage 3 1).entry = some (.opened channel)) ∧
          last.seen Sample.oneTwo = mesh.seen Sample.oneTwo := by
  obtain ⟨mesh, reached, network, goes, opened⟩ :
      ∃ mesh ∈ (machine Sample.members).replay fresh (Sample.openingTwo ++
          [.mineNewChannel (proposedChannel (Sample.crypto 1) 3 true 20 41) 8]),
        ∃ network ∈ (Network.machine (Sample.oneThree.parties Sample.members)).replay
            (mesh.seen Sample.oneThree) Sample.filled,
          (network.node .b).entry = some (.opened ⟨8, 0, 20, 0, 0, false⟩) := by
    decide +kernel
  obtain ⟨last, replay, same, kept⟩ := @pair_unhindered Sample.members mesh Sample.oneThree _ _
    network reached (by decide +kernel) goes (by decide)
  have entry : ((last.seen Sample.oneThree).node .b).entry =
      some (.opened ⟨8, 0, 20, 0, 0, false⟩) := by
    rw [same]
    exact opened
  exact ⟨mesh, reached, last, replay, ⟨_, entry⟩, kept _ (by decide)⟩

/-! ### One key for all entries -/

/-- A node has one key for all its entries, and yet no transaction is ever signed for two
pairs of nodes: what two nodes sign for each other says nothing about a channel of theirs
with anybody else. -/
theorem signed_for_one_pair {events : List MeshEvent}
    (replayed : (machine members).replay fresh events = some mesh)
    {own their other another : Address} {tx : SignedTx}
    (signed : tx ∈ (mesh.storage own their).signed)
    (again : tx ∈ (mesh.storage other another).signed) :
    own = other ∧ their = another ∨ own = another ∧ their = other := by
  have sound := sound_of_replay replayed
  have different : ∀ {own their : Address}, tx ∈ (mesh.storage own their).signed → own ≠ their := by
    rintro own _ member rfl
    rw [sound.alone own] at member
    cases member
  obtain ⟨pair, side, rfl, rfl⟩ := Ends.exists_of_ne (different signed)
  obtain ⟨second, otherSide, rfl, rfl⟩ := Ends.exists_of_ne (different again)
  obtain rfl := @Sound.signed_unique members mesh pair second side otherSide sound tx signed again
  rcases side.eq_or_eq_other otherSide with rfl | rfl
  · exact .inl ⟨rfl, rfl⟩
  · rw [Side.other_other]
    exact .inr ⟨rfl, rfl⟩

/-- What node 1 signs for node 2 it never signs for node 3. -/
theorem signed_for_one_pair_sample :
    ∃ mesh ∈ (machine Sample.members).replay fresh Sample.openingTwo,
      ∃ tx ∈ (mesh.storage 1 2).signed, tx ∉ (mesh.storage 1 3).signed := by
  obtain ⟨mesh, reached, signed⟩ :
      ∃ mesh ∈ (machine Sample.members).replay fresh Sample.openingTwo,
        .newChannel (proposedChannel (Sample.crypto 1) 2 true 10 41) ∈
          (mesh.storage 1 2).signed := by
    decide +kernel
  refine ⟨mesh, reached, _, signed, fun again => ?_⟩
  rcases signed_for_one_pair reached signed again with ⟨-, same⟩ | ⟨same, -⟩ <;>
    exact absurd same (by decide)

end Mesh

end Guac
