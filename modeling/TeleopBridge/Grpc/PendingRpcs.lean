import TeleopBridge.Support.Registry
import TeleopBridge.Support.Transition

/-!
# Pending RPCs of the gRPC Manager

Embeds the RPC functions of `src/grpc/grpc_manager.cpp`, `RpcScope` and the part of
`CancelPendingRpcs` that goes through `pending_rpc_contexts_`, as the steps of any number of
threads. A `ClientContext` lives on the stack of the call that made it, and a later call may
get the same address.

Requests are built from the arguments and copied as they are; they are left out, as is what the
responses only hand through. The context of the event stream is not among the pending ones.
-/

namespace TeleopBridge.Grpc

open Support

/-- A `std::string` that is only compared. -/
abbrev StdString := List Char

/-! ## The RPC functions -/

/-- `grpc::StatusCode`, as far as the manager tells the codes apart. -/
inductive StatusCode
  | ok
  | not_found
  | unauthenticated
  | permission_denied
  | other (code : ℕ)
  deriving DecidableEq, Repr

/-- What the functions read of a response. -/
structure Answer where
  code : StatusCode
  success : Bool := false
  has_item : Bool := false
  ready : Bool := false
  session_id : StdString := []
  device_type_code : StdString := []
  /-- The session ids of `endpoints()`. -/
  endpoints : List StdString := []
  deriving DecidableEq, Repr

/-- `GrpcManager::HeartbeatResult` -/
inductive HeartbeatResult
  | kOk
  | kSessionInvalid
  | kTransportError
  deriving DecidableEq, Repr

/-- What an RPC function returns. -/
inductive RpcResult
  | flag (b : Bool)
  | endpoints (ids : List StdString)
  | heartbeat (result : HeartbeatResult)
  deriving DecidableEq, Repr

/-- An RPC function: whether it asks for a session, what it returns when its first check fails,
what it returns when its scope was not let in, and what it makes of the answer. -/
structure RpcFunction where
  needs_session : Bool := true
  refused : RpcResult := .flag false
  shutting_down : RpcResult := .flag false
  result : Answer → RpcResult

/-- The functions that return whether the server took the request. -/
def Answer.accepted (a : Answer) : RpcResult :=
  .flag (decide (a.code = .ok) && a.success)

/-- `GrpcManager::Register` -/
def register : RpcFunction where
  needs_session := false
  result := Answer.accepted

/-- `GrpcManager::Pair` -/
def pair : RpcFunction where
  result := Answer.accepted

/-- `GrpcManager::Subscribe` -/
def subscribe : RpcFunction where
  result := Answer.accepted

/-- `GrpcManager::Unsubscribe` -/
def unsubscribe : RpcFunction where
  result := Answer.accepted

/-- `GrpcManager::ListUnpaired` -/
def listUnpaired : RpcFunction where
  refused := .endpoints []
  shutting_down := .endpoints []
  result a := .endpoints (if a.code = .ok ∧ a.success then a.endpoints else [])

/-- `GrpcManager::PublishStreamManifest` -/
def publishStreamManifest : RpcFunction where
  result := Answer.accepted

/-- `GrpcManager::GetStreamManifest`: the response has no `success`. -/
def getStreamManifest : RpcFunction where
  result a := .flag (decide (a.code = .ok))

/-- `GrpcManager::PublishStreamConfig` -/
def publishStreamConfig : RpcFunction where
  result a := .flag (decide (a.code = .ok) && a.success && a.has_item)

/-- `GrpcManager::GetStreamConfig` -/
def getStreamConfig : RpcFunction where
  result a := .flag (decide (a.code = .ok))

/-- `GrpcManager::GetP2pInfo` -/
def getP2pInfo : RpcFunction where
  result a := .flag (decide (a.code = .ok) && a.ready)

/-- The `switch` of `GrpcManager::Heartbeat`. -/
def heartbeatResult : StatusCode → HeartbeatResult
  | .ok => .kOk
  | .not_found => .kSessionInvalid
  | .unauthenticated => .kSessionInvalid
  | .permission_denied => .kSessionInvalid
  -- `default`: the connection, not the session
  | .other _ => .kTransportError

/-- `GrpcManager::Heartbeat`: its first check reports an invalid session even when the manager
is shutting down. -/
def heartbeat : RpcFunction where
  refused := .heartbeat .kSessionInvalid
  shutting_down := .heartbeat .kTransportError
  result a := .heartbeat (heartbeatResult a.code)

/-- The RPC functions of the manager. -/
inductive Rpc
  | register
  | pair
  | subscribe
  | unsubscribe
  | listUnpaired
  | publishStreamManifest
  | getStreamManifest
  | publishStreamConfig
  | getStreamConfig
  | getP2pInfo
  | heartbeat
  deriving DecidableEq, Repr

def Rpc.function : Rpc → RpcFunction
  | .register => Grpc.register
  | .pair => Grpc.pair
  | .subscribe => Grpc.subscribe
  | .unsubscribe => Grpc.unsubscribe
  | .listUnpaired => Grpc.listUnpaired
  | .publishStreamManifest => Grpc.publishStreamManifest
  | .getStreamManifest => Grpc.getStreamManifest
  | .publishStreamConfig => Grpc.publishStreamConfig
  | .getStreamConfig => Grpc.getStreamConfig
  | .getP2pInfo => Grpc.getP2pInfo
  | .heartbeat => Grpc.heartbeat

/-! ## Threads -/

/-- A call that has made its `ClientContext`; `session_id` is the metadata of the context. -/
structure RpcCall where
  rpc : Rpc
  session_id : StdString
  context : ℕ
  deriving DecidableEq, Repr

/-- Where a call with a context is. -/
inductive RpcStage
  /-- Before `RpcScope` gets `pending_rpc_mutex_`. -/
  | constructing
  /-- `RpcScope` holds the mutex and has not read `shutting_down_`. -/
  | loading
  /-- It read `false`. -/
  | inserting
  /-- It read `true`. -/
  | rejecting
  /-- `scope` is constructed and has the context registered. -/
  | scoped
  /-- In the call of the stub. -/
  | inFlight
  | answered (answer : Answer)
  /-- Before `~RpcScope` gets the mutex. -/
  | closing (result : RpcResult)
  | erasing (result : RpcResult)
  /-- The scope is destroyed, or has nothing to do; the context is not. -/
  | leaving (result : RpcResult)
  deriving DecidableEq, Repr

/-- Where a thread is. -/
inductive Activity
  | idle
  | entered (rpc : Rpc)
  /-- It has read `session_id()`, unless it is `Register`. -/
  | gating (rpc : Rpc) (session_id : StdString)
  | inRpc (call : RpcCall) (stage : RpcStage)
  | returned (rpc : Rpc) (result : RpcResult)
  /-- In `CancelPendingRpcs`, before `shutting_down_.store(true)`. -/
  | cancelling
  /-- Before it gets the mutex. -/
  | locking
  /-- In the loop, with the contexts it has not come to. -/
  | looping (remaining : Finset ℕ)
  deriving DecidableEq

/-- The stages in which the context is in `pending_rpc_contexts_`. -/
def RpcStage.registered : RpcStage → Bool
  | .scoped => true
  | .inFlight => true
  | .answered _ => true
  | .closing _ => true
  | .erasing _ => true
  | _ => false

/-- The stages in which the call holds `pending_rpc_mutex_`. -/
def RpcStage.holds : RpcStage → Bool
  | .loading => true
  | .inserting => true
  | .rejecting => true
  | .erasing _ => true
  | _ => false

namespace Activity

/-- The context on the stack of the thread. -/
def context : Activity → Option ℕ
  | .inRpc call _ => some call.context
  | _ => none

/-- The context that the thread's scope has registered. -/
def registered : Activity → Option ℕ
  | .inRpc call stage => if stage.registered then some call.context else none
  | _ => none

/-- Whether the thread holds `pending_rpc_mutex_`. -/
def holds : Activity → Bool
  | .inRpc _ stage => stage.holds
  | .looping _ => true
  | _ => false

end Activity

/-- A call of the stub, as it was begun. -/
structure StubCall where
  rpc : Rpc
  session_id : StdString
  /-- `TryCancel` was called on its context before. -/
  cancelled : Bool
  /-- How many calls of `CancelPendingRpcs` were through with the pending contexts. -/
  cancels : ℕ
  deriving DecidableEq, Repr

/-- The manager with its threads. -/
structure RpcRun where
  threads : ℕ → Activity := fun _ => .idle
  session_id_ : StdString := []
  device_type_code_ : StdString := []
  shutting_down_ : Bool := false
  mutex : Option ℕ := none
  pending_rpc_contexts_ : Finset ℕ := ∅
  /-- The addresses at which there is a context now. -/
  contexts : Finset ℕ := ∅
  /-- The contexts on which `TryCancel` was called. -/
  cancelled : Finset ℕ := ∅
  /-- `TryCancel` was called where there is no context. -/
  dangling : Bool := false
  cancels : ℕ := 0
  sent : List StubCall := []
  /-- The sessions that an answer to `Register` gave. -/
  granted : List (StdString × StdString) := []

namespace RpcRun

/-- One thread goes on. -/
def set (r : RpcRun) (t : ℕ) (activity : Activity) : RpcRun :=
  { r with threads := Function.update r.threads t activity }

/-- The early checks and, when they pass, the construction of the context. -/
def gate (r : RpcRun) (t : ℕ) (rpc : Rpc) (session_id : StdString) (context : ℕ) : RpcRun :=
  -- both checks come before the context, and refuse alike
  if rpc.function.needs_session && session_id.isEmpty || r.shutting_down_ then
    r.set t (.returned rpc rpc.function.refused)
  else
    { r.set t (.inRpc ⟨rpc, session_id, context⟩ .constructing) with
      contexts := insert context r.contexts }

/-- The function reads the answer; `Register` stores its session when it succeeds. -/
def readAnswer (r : RpcRun) (t : ℕ) (call : RpcCall) (answer : Answer) : RpcRun :=
  let result := call.rpc.function.result answer
  let r := r.set t (.inRpc call (.closing result))
  -- only `Register` stores a session
  if call.rpc = .register ∧ result = .flag true then
    { r with
      session_id_ := answer.session_id
      device_type_code_ := answer.device_type_code
      granted := r.granted ++ [(answer.session_id, answer.device_type_code)] }
  else r

/-- `context->TryCancel()` -/
def tryCancel (r : RpcRun) (context : ℕ) : RpcRun :=
  -- a context that is gone would be a pointer left dangling
  if context ∈ r.contexts then { r with cancelled := insert context r.cancelled }
  else { r with dangling := true }

end RpcRun

/-! ## Steps -/

/-- The steps of a thread. -/
inductive RpcStep
  | call (t : ℕ) (rpc : Rpc)
  | readSession (t : ℕ)
  | gate (t : ℕ) (context : ℕ)
  | lock (t : ℕ)
  | load (t : ℕ)
  | insert (t : ℕ)
  | reject (t : ℕ)
  | send (t : ℕ)
  | answer (t : ℕ) (answer : Answer)
  | readAnswer (t : ℕ)
  | erase (t : ℕ)
  | destroy (t : ℕ)
  | leave (t : ℕ)
  | cancel (t : ℕ)
  | store (t : ℕ)
  | tryCancel (t : ℕ) (context : ℕ)
  | unlock (t : ℕ)
  deriving DecidableEq, Repr

namespace RpcRun

/-- A thread that waits for the mutex gets it. -/
def lock (r : RpcRun) (t : ℕ) : Option RpcRun :=
  if r.mutex = none then
    -- the constructor and the destructor of the scope wait for it, and `CancelPendingRpcs`
    match r.threads t with
    | .inRpc call .constructing => some { r.set t (.inRpc call .loading) with mutex := some t }
    | .inRpc call (.closing result) =>
        some { r.set t (.inRpc call (.erasing result)) with mutex := some t }
    | .locking => some { r.set t (.looping r.pending_rpc_contexts_) with mutex := some t }
    | _ => none
  else none

def step (r : RpcRun) : RpcStep → Option RpcRun
  | .call t rpc =>
      match r.threads t with
      | .idle => some (r.set t (.entered rpc))
      | _ => none
  | .readSession t =>
      match r.threads t with
      | .entered rpc =>
          some (r.set t (.gating rpc (if rpc.function.needs_session then r.session_id_ else [])))
      | _ => none
  | .gate t context =>
      match r.threads t with
      | .gating rpc session_id =>
          if context ∈ r.contexts then none else some (r.gate t rpc session_id context)
      | _ => none
  | .lock t => r.lock t
  | .load t =>
      match r.threads t with
      | .inRpc call .loading =>
          some (r.set t (.inRpc call (if r.shutting_down_ then .rejecting else .inserting)))
      | _ => none
  | .insert t =>
      match r.threads t with
      | .inRpc call .inserting =>
          some { r.set t (.inRpc call .scoped) with
            pending_rpc_contexts_ := insert call.context r.pending_rpc_contexts_
            mutex := none }
      | _ => none
  | .reject t =>
      match r.threads t with
      | .inRpc call .rejecting =>
          some { r.set t (.inRpc call (.leaving call.rpc.function.shutting_down)) with
            mutex := none }
      | _ => none
  | .send t =>
      match r.threads t with
      | .inRpc call .scoped =>
          some { r.set t (.inRpc call .inFlight) with
            sent := r.sent ++
              [⟨call.rpc, call.session_id, decide (call.context ∈ r.cancelled), r.cancels⟩] }
      | _ => none
  | .answer t answer =>
      match r.threads t with
      | .inRpc call .inFlight => some (r.set t (.inRpc call (.answered answer)))
      | _ => none
  | .readAnswer t =>
      match r.threads t with
      | .inRpc call (.answered answer) => some (r.readAnswer t call answer)
      | _ => none
  | .erase t =>
      match r.threads t with
      | .inRpc call (.erasing result) =>
          some { r.set t (.inRpc call (.leaving result)) with
            pending_rpc_contexts_ := r.pending_rpc_contexts_.erase call.context
            mutex := none }
      | _ => none
  | .destroy t =>
      match r.threads t with
      | .inRpc call (.leaving result) =>
          some { r.set t (.returned call.rpc result) with
            contexts := r.contexts.erase call.context
            cancelled := r.cancelled.erase call.context }
      | _ => none
  | .leave t =>
      match r.threads t with
      | .returned _ _ => some (r.set t .idle)
      | _ => none
  | .cancel t =>
      match r.threads t with
      | .idle => some (r.set t .cancelling)
      | _ => none
  | .store t =>
      match r.threads t with
      | .cancelling => some { r.set t .locking with shutting_down_ := true }
      | _ => none
  | .tryCancel t context =>
      match r.threads t with
      | .looping remaining =>
          if context ∈ remaining then
            some ((r.set t (.looping (remaining.erase context))).tryCancel context)
          else none
      | _ => none
  | .unlock t =>
      match r.threads t with
      | .looping remaining =>
          if remaining = ∅ then
            some { r.set t .idle with mutex := none, cancels := r.cancels + 1 }
          else none
      | _ => none

end RpcRun

end TeleopBridge.Grpc
