import Mathlib.Data.List.Basic
import Guac.Http.BlockchainClient

/-!
Owns what `check_for_open` finds in a chain history: the id of the first opening of the
pair in the newest block, where the id of the last one in the whole history was wanted.

That a log of the event carries the two addresses and one word of data is the interface of
the contract, and a hypothesis here.
-/

set_option autoImplicit false

namespace Guac

namespace BlockchainClient

section Definitions

variable (client : BlockchainClient)

/-- The signature `ChannelOpened` carries as its first topic. -/
def openedSignature : Bytes32 := client.deriveSignature "ChannelOpened(address,address,bytes32)"

/-- The id of an opening of this pair; `none` for every other log. -/
def openedId (address0 address1 : Address) (log : Log) : Option Bytes32 :=
  if log.address = client.contractAddress ∧
      log.topics = [client.openedSignature, address0.zeroExtend 256, address1.zeroExtend 256] then
    some (wordOfBytes log.data)
  else none

/-- The ids of the openings of this pair, oldest first. -/
def openings (address0 address1 : Address) (logs : List Log) : List Bytes32 :=
  logs.filterMap (client.openedId address0 address1)

/-- The contract emits `ChannelOpened` with two indexed addresses and the id as its data. -/
def EmitsOpened (logs : List Log) : Prop :=
  ∀ log ∈ logs, log.address = client.contractAddress →
    log.topics.head? = some client.openedSignature →
      log.topics.length = 3 ∧ log.data.length = 32

end Definitions

def newest (blocks : List Block) : Block := blocks.getLast?.getD []

theorem flatten_eq_newest (blocks : List Block) :
    blocks.flatten = blocks.dropLast.flatten ++ newest blocks := by
  rcases List.eq_nil_or_concat blocks with rfl | ⟨older, block, rfl⟩
  · rfl
  · simp [newest]

theorem head?_filter_bind {α β : Type} {keeps : α → Bool} {value : α → Option β} {list : List α}
    (defined : ∀ element ∈ list, keeps element = (value element).isSome) :
    (list.filter keeps).head?.bind value = (list.filterMap value).head? := by
  induction list with
  | nil => rfl
  | cons element rest inductionHypothesis =>
      have first := defined element (List.mem_cons_self ..)
      have later := inductionHypothesis fun other member =>
        defined other (List.mem_cons_of_mem _ member)
      cases known : value element with
      | none =>
          rw [known] at first
          rw [List.filter_cons_of_neg (by simp [first]), List.filterMap_cons_none known, later]
      | some result =>
          rw [known] at first
          rw [List.filter_cons_of_pos first, List.filterMap_cons_some known, List.head?_cons,
            List.head?_cons, Option.bind_some, known]

section Lookups

variable {client : BlockchainClient} {address0 address1 : Address} {blocks : List Block}

/-- Without a block range `eth_getLogs` searches the newest block. -/
theorem ethGetLogs_eventFilter (event : String) (topic1 topic2 : Option (List Bytes32)) :
    ethGetLogs blocks (client.eventFilter event topic1 topic2) =
      (newest blocks).filter (client.eventFilter event topic1 topic2).selects := by
  change ((blocks.take (blocks.length - 1 + 1)).drop (blocks.length - 1)).flatten.filter _ = _
  rcases List.eq_nil_or_concat blocks with rfl | ⟨older, block, rfl⟩
  · rfl
  · rw [List.concat_eq_append, List.length_append, List.length_singleton, Nat.add_sub_cancel,
      List.take_of_length_le (by simp), List.drop_left]
    simp [newest]

theorem selects_eq {logs : List Log} (emits : client.EmitsOpened logs) {log : Log}
    (member : log ∈ logs) :
    (client.eventFilter "ChannelOpened(address,address,bytes32)" (some [address0.zeroExtend 256])
        (some [address1.zeroExtend 256])).selects log =
      (client.openedId address0 address1 log).isSome := by
  have emitted := emits log member
  obtain ⟨address, topics, data⟩ := log
  unfold openedId NewFilter.selects
  by_cases contract : address = client.contractAddress
  · subst contract
    cases topics with
    | nil => simp [eventFilter, topicsMatch]
    | cons signature rest =>
        by_cases same : signature = client.openedSignature
        · subst same
          obtain ⟨topic1, topic2, rfl⟩ := List.length_eq_two.mp
            (Nat.succ.inj (emitted rfl rfl).1)
          rcases eq_or_ne (address0.zeroExtend 256) topic1 with rfl | first
          · rcases eq_or_ne (address1.zeroExtend 256) topic2 with rfl | second
            · simp [eventFilter, topicsMatch, openedSignature]
            · have notSecond := second.symm
              simp_all [eventFilter, topicsMatch, openedSignature]
          · have notFirst := first.symm
            simp_all [eventFilter, topicsMatch, openedSignature]
        · have differs : client.deriveSignature _ ≠ signature := Ne.symm same
          simp [eventFilter, topicsMatch, same, differs]
  · simp [eventFilter, contract]

theorem openedId_eq_some {log : Log} {id : Bytes32}
    (opened : client.openedId address0 address1 log = some id) :
    log.address = client.contractAddress ∧ log.topics.head? = some client.openedSignature ∧
      id = wordOfBytes log.data := by
  unfold openedId at opened
  split at opened <;> cases opened
  next shape => exact ⟨shape.1, by rw [shape.2]; rfl, rfl⟩

/-- `check_for_open` answers with the first opening in the newest block. -/
theorem checkForOpen_eq (emits : client.EmitsOpened blocks.flatten) :
    client.checkForOpen (fun filter => .ok (ethGetLogs blocks filter)) address0 address1 =
      .ok (client.openings address0 address1 (newest blocks)).head? := by
  have newestEmits : client.EmitsOpened (newest blocks) := by
    intro log member
    refine emits log ?_
    rw [flatten_eq_newest]
    exact List.mem_append_right _ member
  have first := head?_filter_bind fun log member =>
    @selects_eq client address0 address1 _ newestEmits log member
  rw [openings, ← first]
  cases found : ((newest blocks).filter (client.eventFilter
      "ChannelOpened(address,address,bytes32)" (some [address0.zeroExtend 256])
      (some [address1.zeroExtend 256])).selects).head? with
  | none => exact checkForOpen_of_none (congrArg Except.ok (ethGetLogs_eventFilter ..)) found
  | some log =>
      obtain ⟨inside, selected⟩ := List.mem_filter.mp (List.mem_of_head? found)
      rw [selects_eq newestEmits inside] at selected
      obtain ⟨id, opened⟩ := Option.isSome_iff_exists.mp selected
      obtain ⟨contract, signature, rfl⟩ := openedId_eq_some opened
      rw [Option.bind_some, opened]
      exact checkForOpen_of_some (congrArg Except.ok (ethGetLogs_eventFilter ..)) found
        (newestEmits log inside contract signature).2

/-- `check_for_open` answers with the most recent opening of the pair exactly if there has
been none, or the newest block holds one and its first and its last one carry the same id. -/
theorem check_for_open_finds_iff (emits : client.EmitsOpened blocks.flatten) :
    client.checkForOpen (fun filter => .ok (ethGetLogs blocks filter)) address0 address1 =
        .ok (client.openings address0 address1 blocks.flatten).getLast? ↔
      client.openings address0 address1 blocks.flatten = [] ∨
        client.openings address0 address1 (newest blocks) ≠ [] ∧
          (client.openings address0 address1 (newest blocks)).head? =
            (client.openings address0 address1 (newest blocks)).getLast? := by
  have all : client.openings address0 address1 blocks.flatten =
      client.openings address0 address1 blocks.dropLast.flatten ++
        client.openings address0 address1 (newest blocks) := by
    rw [flatten_eq_newest blocks]
    exact List.filterMap_append
  rw [checkForOpen_eq emits, all, Except.ok.injEq]
  generalize client.openings address0 address1 blocks.dropLast.flatten = older
  cases client.openings address0 address1 (newest blocks) with
  | nil => simp [eq_comm]
  | cons id rest => simp [List.getLast?_cons]

end Lookups

end BlockchainClient

namespace Sample

def openedLog (id : UInt8) : Log :=
  ⟨99, [chainClient.openedSignature, 1, 2], List.replicate 31 0 ++ [id]⟩

def openedNow : List Block := [[openedLog 5], [openedLog 7]]

def openedBefore : List Block := [[openedLog 7], []]

end Sample

/-- The opening in the newest block is found. -/
theorem check_for_open_finds_iff_sample :
    Sample.chainClient.checkForOpen (fun filter => .ok (ethGetLogs Sample.openedNow filter)) 1 2 =
      .ok (Sample.chainClient.openings 1 2 Sample.openedNow.flatten).getLast? := by
  have emits : Sample.chainClient.EmitsOpened Sample.openedNow.flatten := by
    unfold BlockchainClient.EmitsOpened
    decide +kernel
  exact (BlockchainClient.check_for_open_finds_iff emits).mpr (.inr (by decide +kernel))

/-- The opening in the block before it is not, although it is in the history. -/
theorem check_for_open_misses :
    Sample.chainClient.checkForOpen (fun filter => .ok (ethGetLogs Sample.openedBefore filter))
        1 2 = .ok none ∧
      (Sample.chainClient.openings 1 2 Sample.openedBefore.flatten).getLast? = some 7 := by
  decide +kernel

end Guac
