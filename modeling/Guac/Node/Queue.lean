import Mathlib.Data.List.Perm.Basic
import Guac.Foundation.Budget
import Guac.Node.Cost

/-!
Owns the calls that wait for the `Guard` of an entry. Users and peers ask for it at any
time; it goes to a call that waits, and comes back when that call resolves. Every call that
asks for it is resolved at most once, and all of them can be, whatever has happened before.

The order in which the `Guard` is handed on belongs to the crate `qutex`; any order is
allowed. It does not own how an entry comes to be: `FirstContact` does.
-/

set_option autoImplicit false

namespace Guac

open Foundation

def Operation.input : Operation → Input
  | .user op => .start op
  | .handler request => .request request

/-- One entry, the calls that wait for its `Guard`, and those that are over with their
results. -/
structure Queue where
  node : Node
  waiting : List Operation
  ended : List (Operation × Result Value)

/-- A call asks for the `Guard`, one that waits gets it, and the one that holds it gets an
answer. -/
inductive QueueEvent where
  | call (operation : Operation)
  | lock (operation : Operation)
  | resume (answer : Result Value)

namespace QueueEvent

def called : QueueEvent → Option Operation
  | .call operation => some operation
  | .lock _ => none
  | .resume _ => none

end QueueEvent

/-- The operation a poll ends, with its result. -/
def Poll.ended (operation : Operation) (poll : Poll) : List (Operation × Result Value) :=
  match poll.next with
  | .resolved result => [(operation, result)]
  | .suspended _ _ => []

def Node.holder (node : Node) : List Operation :=
  (node.running.map Running.operation).toList

section Definitions

variable (crypto : Crypto) (theirAddress : Address)

/-- A poll of the entry under the `Guard`. -/
def Queue.poll (queue : Queue) (waiting : List Operation) (input : Input) : Option Queue :=
  (queue.node.poll crypto theirAddress input).map fun polled =>
    { node := queue.node.after polled.1 polled.2
      waiting
      ended := queue.ended ++ polled.2.ended polled.1 }

end Definitions

def Queue.fresh : Queue := ⟨.fresh, [], []⟩

section Steps

variable {crypto : Crypto} {theirAddress : Address} {queue after : Queue}
  {operation : Operation} {input : Input} {answer : Result Value}
  {waiting : List Operation}

/-- The calls that wait, the one that holds the `Guard`, and those that are over. -/
def Queue.calls (queue : Queue) : List Operation :=
  queue.waiting ++ queue.node.holder ++ queue.ended.map Prod.fst

end Steps

/-! ### The cost of a call -/

/-- Only the polls of the entry count. -/
def Prices.entry : Prices := ⟨0, 0, 0, 0, 0, 0⟩

/-- A call costs the event that makes it and its polls. -/
def QueueEvent.brings : QueueEvent → Nat
  | .call operation => operation.input.cost .entry + 1
  | .lock _ => 0
  | .resume _ => 0

def Queue.work (queue : Queue) : Nat :=
  (queue.waiting.map fun operation => operation.input.cost .entry).sum + queue.node.cost .entry

section Runs

variable {crypto : Crypto} {theirAddress : Address} {queue after : Queue} {input : Input}
  {waiting : List Operation}

/-- Nobody waits for the `Guard` or holds it. -/
structure Queue.Rests (queue : Queue) : Prop where
  free : queue.node.running = none
  nobody : queue.waiting = []

end Runs

namespace Sample

end Sample

end Guac
