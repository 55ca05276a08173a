import Guac.Foundation.Format
import Guac.Core.CounterpartyApi

/-!
Owns one HTTP call between two nodes: what `counterparty_client.rs` posts, how
`counterparty_server.rs` routes it and turns the result of a handler into a response, and
what the client makes of the response.

The JSON of the types and the words of a status come from libraries and are fields of
`Json`; the body of a message is whatever text it is over, and the numbers read from it are
below `2^256`. The text of a library's own error is not kept apart. It does not own the
connection: a response that never comes is `none`.
-/

set_option autoImplicit false

namespace Guac

open Foundation

/-- The routes of `init_server`. -/
inductive Route where
  | proposeChannel
  | proposeReDraw
  | notifyChannelOpened
  | notifyReDraw
  | receivePayment
  deriving DecidableEq

namespace Route

def path : Route → String
  | proposeChannel => "/propose_channel"
  | proposeReDraw => "/propose_re_draw"
  | notifyChannelOpened => "/notify_channel_opened"
  | notifyReDraw => "/notify_re_draw"
  | receivePayment => "/receive_payment"

/-- The resources of the server, in the order they are registered. -/
def all : List Route :=
  [proposeChannel, proposeReDraw, notifyChannelOpened, notifyReDraw, receivePayment]

def ofPath (path : String) : Option Route := all.find? fun route => route.path == path

@[simp] theorem ofPath_path (route : Route) : ofPath route.path = some route := by
  cases route <;> decide

end Route

def Request.route : Request → Route
  | .proposeChannel _ => .proposeChannel
  | .proposeReDraw _ => .proposeReDraw
  | .notifyChannelOpened => .notifyChannelOpened
  | .notifyReDraw => .notifyReDraw
  | .receivePayment _ => .receivePayment

/-- `SocketAddr`. -/
structure SocketAddr where
  ip : String
  port : Nat

/-- A request as the server sees it. -/
structure HttpRequest (τ : Type) where
  method : String
  path : String
  body : τ

/-- `HttpResponse`. -/
structure HttpResponse (τ : Type) where
  status : Nat
  body : τ

/-- A request as the client sends it: the address it connects to, and the endpoint it
names. -/
structure Outgoing (τ : Type) where
  connection : SocketAddr
  endpoint : String
  message : HttpRequest τ

/-- What the two ends of a call use of the libraries: the JSON of the types they send, a
plain text and an empty one as bodies, the words for a status, a body in `{:?}`, and the
address a string names. -/
structure Json (τ : Type) where
  proposal : Codec τ (Address × NewChannelTx)
  reDraw : Codec τ (Address × ReDrawTx)
  address : Codec τ Address
  payment : Codec τ (Address × UpdateTx)
  signature : Codec τ Signature
  unit : Codec τ Unit
  maybeSeq : Codec τ (Option Uint256)
  uint : Codec τ Uint256
  text : String → τ
  empty : τ
  statusWords : Nat → String
  debug : τ → String
  parseSocketAddr : String → Option SocketAddr

/-- The values a request is answered with: the `Item` of its method. -/
inductive Request.Returns : Request → Value → Prop
  | proposeChannel (newChannelTx : NewChannelTx) (signature : Signature) :
      Returns (.proposeChannel newChannelTx) (.signature signature)
  | proposeReDraw (reDrawTx : ReDrawTx) (signature : Signature) :
      Returns (.proposeReDraw reDrawTx) (.signature signature)
  | notifyChannelOpened : Returns .notifyChannelOpened .unit
  | notifyReDraw : Returns .notifyReDraw .unit
  | receivePayment (updateTx : UpdateTx) (sequenceNumber : Option Uint256) :
      Returns (.receivePayment updateTx) (.maybeSeq sequenceNumber)

section Ends

variable {τ : Type} (json : Json τ)

/-! ### The client's request -/

def Json.body (fromAddress : Address) : Request → τ
  | .proposeChannel newChannelTx => json.proposal.write (fromAddress, newChannelTx)
  | .proposeReDraw reDrawTx => json.reDraw.write (fromAddress, reDrawTx)
  | .notifyChannelOpened => json.address.write fromAddress
  | .notifyReDraw => json.address.write fromAddress
  | .receivePayment updateTx => json.payment.write (fromAddress, updateTx)

def Json.post (fromAddress : Address) (request : Request) : HttpRequest τ where
  method := "POST"
  path := request.route.path
  body := json.body fromAddress request

/-- What a method of `CounterpartyClient` sends. Nothing is sent to a string that is not an
address. -/
def Json.send (fromAddress : Address) (toUrl : String) (request : Request) :
    Result (Outgoing τ) := do
  let toUrl ← okOr (json.parseSocketAddr toUrl) (.failure "invalid IP address syntax")
  .ok
    { connection := toUrl
      endpoint := "http://[" ++ toUrl.ip ++ "]:" ++ toString toUrl.port ++ request.route.path
      message := json.post fromAddress request }

/-! ### The server -/

/-- The arguments a route takes from the body: the address the sender claims, and the
request. The server gives the handlers no URL. A body with a number of `2^256` or more,
which the library's `Uint256` holds unchecked, is not one of `Json`. -/
def Json.arguments (body : τ) : Route → Option (Address × Request)
  | .proposeChannel => (json.proposal.read body).map fun read => (read.1, .proposeChannel read.2)
  | .proposeReDraw => (json.reDraw.read body).map fun read => (read.1, .proposeReDraw read.2)
  | .notifyChannelOpened => (json.address.read body).map fun read => (read, .notifyChannelOpened)
  | .notifyReDraw => (json.address.read body).map fun read => (read, .notifyReDraw)
  | .receivePayment => (json.payment.read body).map fun read => (read.1, .receivePayment read.2)

/-- The handler call a message makes; `none` where the framework answers by itself. -/
def Json.dispatch (message : HttpRequest τ) : Option (Address × Request) := do
  let route ← Route.ofPath message.path
  if message.method = "POST" then json.arguments message.body route else none

/-- `convert_error`. A handler that panics gives no response. -/
def Json.convertError : Fault → Option (HttpResponse τ)
  | .guac (.forbidden message) => some ⟨403, json.text message⟩
  | .guac (.updateTooOld correctSeq) => some ⟨409, json.uint.write correctSeq⟩
  | .guac _ => some ⟨500, json.empty⟩
  | .failure _ => some ⟨500, json.empty⟩
  | .panic => none

/-- The JSON of what a handler resolves with; the other values are of the chain and of the
user. -/
def Json.value : Value → Option τ
  | .unit => some (json.unit.write ())
  | .signature signature => some (json.signature.write signature)
  | .maybeSeq sequenceNumber => some (json.maybeSeq.write sequenceNumber)
  | .block _ => none
  | .channelId _ => none
  | .maybeChannelId _ => none
  | .accrual _ => none

def Json.respond : Result Value → Option (HttpResponse τ)
  | .ok value => (json.value value).map fun body => ⟨200, body⟩
  | .error fault => json.convertError fault

/-! ### The client's reading of the response -/

def Json.verifyClientError (response : HttpResponse τ) : Result (HttpResponse τ) :=
  if response.status ≠ 200 then
    .error (.failure ("HTTP error " ++ json.statusWords response.status ++ ": " ++
      json.debug response.body))
  else .ok response

/-- The item a method of the client reads from a body; the two notices read nothing. -/
def Json.item (body : τ) : Request → Option Value
  | .proposeChannel _ => (json.signature.read body).map .signature
  | .proposeReDraw _ => (json.signature.read body).map .signature
  | .notifyChannelOpened => some .unit
  | .notifyReDraw => some .unit
  | .receivePayment _ => (json.maybeSeq.read body).map .maybeSeq

/-- What a method of `CounterpartyClient` resolves with. -/
def Json.receive (request : Request) : Option (HttpResponse τ) → Result Value
  | none => .error (.failure "connection closed")
  | some response => do
      let response ← json.verifyClientError response
      okOr (json.item response.body request) (.failure "Json deserialize error")

end Ends

section Calls

variable {τ : Type} {json : Json τ} {fromAddress : Address} {request : Request}

/-- What the client posts, the server hands to the same handler under the address of the
sender. -/
@[simp] theorem dispatch_post :
    json.dispatch (json.post fromAddress request) = some (fromAddress, request) := by
  unfold Json.dispatch Json.post
  simp only [Route.ofPath_path, Option.bind_eq_bind, Option.bind_some, if_true]
  cases request <;> simp [Request.route, Json.arguments, Json.body]

theorem receive_ok {value : Value} (returns : request.Returns value) :
    json.receive request (json.respond (.ok value)) = .ok value := by
  cases returns <;>
    simp [Json.receive, Json.respond, Json.value, Json.verifyClientError, Json.item, okOr, bind,
      Except.bind]

theorem convertError_status {fault : Fault} {response : HttpResponse τ}
    (converted : json.convertError fault = some response) : response.status ≠ 200 := by
  unfold Json.convertError at converted
  split at converted <;> cases converted <;> simp

/-- An error of the handler comes back as some error. -/
theorem receive_error (fault : Fault) :
    ∃ seen, json.receive request (json.respond (.error fault)) = .error (.failure seen) := by
  rw [Json.respond]
  cases converted : json.convertError fault with
  | none => exact ⟨_, rfl⟩
  | some response =>
      obtain ⟨seen, refused⟩ :
          ∃ seen, json.verifyClientError response = .error (.failure seen) :=
        ⟨_, if_pos (convertError_status converted)⟩
      refine ⟨seen, ?_⟩
      rw [Json.receive, refused]
      rfl

end Calls

namespace Sample

/-- Bodies kept as the values they print. -/
inductive Body where
  | proposal (value : Address × NewChannelTx)
  | reDraw (value : Address × ReDrawTx)
  | address (value : Address)
  | payment (value : Address × UpdateTx)
  | signature (value : Signature)
  | unit
  | maybeSeq (value : Option Uint256)
  | uint (value : Uint256)
  | text (message : String)
  | empty

/-- A library that reads what it wrote, and knows one address. -/
def json : Json Body where
  proposal := ⟨.proposal, fun | .proposal value => some value | _ => none, fun _ => rfl⟩
  reDraw := ⟨.reDraw, fun | .reDraw value => some value | _ => none, fun _ => rfl⟩
  address := ⟨.address, fun | .address value => some value | _ => none, fun _ => rfl⟩
  payment := ⟨.payment, fun | .payment value => some value | _ => none, fun _ => rfl⟩
  signature := ⟨.signature, fun | .signature value => some value | _ => none, fun _ => rfl⟩
  unit := ⟨fun _ => .unit, fun | .unit => some () | _ => none, fun _ => rfl⟩
  maybeSeq := ⟨.maybeSeq, fun | .maybeSeq value => some value | _ => none, fun _ => rfl⟩
  uint := ⟨.uint, fun | .uint value => some value | _ => none, fun _ => rfl⟩
  text := .text
  empty := .empty
  statusWords status := toString status
  debug _ := "b"
  parseSocketAddr url := if url = "127.0.0.1:8882" then some ⟨"127.0.0.1", 8882⟩ else none

end Sample

end Guac
