import Proxbox.Library.BoundedLog
import Proxbox.WebSocket.Frames
import Mathlib.Algebra.Order.Ring.Rat
/-!
# The state behind the WebSocket lock

One worker at a time relays sync commands to a backend and buffers what the backend answers. What it shares with
the requests that post and poll is guarded by `websocket_lock`; here that state is a `Store`, and each critical
section is a function on it. The connections and what was sent over them are beside it in the same record, with
a note of every accepted post.
-/

namespace Proxbox.WebSocket

open Python

def isLowerHex (c : Char) : Bool := c.isDigit || ('a' ≤ c && c ≤ 'f')

/-- What is drawn at random: `BUFFER_GENERATION` once, and a new `secrets.token_hex(16)` at each call. -/
structure Process where
  generation : String
  tokens : Nat → String
  generation_hex : generation.toList.length = 16 ∧ generation.toList.all isLowerHex

/-! ### State -/

inductive ButtonState where
  | notStarted
  | syncing
  deriving DecidableEq

/-- One kind's entries of `ws_sync_button_state` and `ws_sync_run_id`. -/
structure Latch where
  state : ButtonState
  runId : Option String
  /-- The number of the post that set it, for the statements about the code only. -/
  run : Option Nat
  deriving DecidableEq

def Latch.released : Latch := ⟨.notStarted, none, none⟩

abbrev Identity := Int × String

structure Connection where
  endpointId : Int
  identity : String
  connectionId : String
  deriving DecidableEq

def Connection.worker (connection : Connection) : Identity := (connection.endpointId, connection.identity)

inductive Expiry where
  | at (time : Rat)
  | never
  deriving DecidableEq

def Expiry.reached (now : Rat) : Expiry → Bool
  | .at time => time ≤ now
  | .never => false

structure Decision where
  expires : Expiry
  supported : Bool
  deriving DecidableEq

/-- `(endpoint_id, message)`; the number is the log's. -/
abbrev Message := Int × String

@[irreducible] def messageBufferSize : Nat := 500

/-- `GLOBAL_WEBSOCKET_MESSAGES` with `_last_sequence`. -/
abbrev Messages := BoundedLog Message messageBufferSize

/-- A frame sent over a connection, and the command it was made from. -/
structure Transmission where
  socket : Nat
  frame : String
  queued : QueuedCommand
  deriving DecidableEq

/-- A sync post answered with 202: the worker at that moment, and what the answer told the client. -/
structure Post where
  kind : Kind
  worker : Option Identity
  runId : Option String
  cursor : Nat

structure Store where
  messages : Messages
  lastSyncActivity : Rat
  latches : Kind → Latch
  taskIdentity : Option Identity
  connectionIdentity : Option Connection
  queue : List QueuedCommand
  capabilityCache : Connection → Option Decision
  /-- How many tokens were drawn. -/
  drawn : Nat
  /-- The endpoint and the identity each connection was opened for. -/
  sockets : List Identity
  wire : List Transmission
  posts : List Post

def Store.initial : Store where
  messages := .empty
  lastSyncActivity := 0
  latches _ := .released
  taskIdentity := none
  connectionIdentity := none
  queue := []
  capabilityCache _ := none
  drawn := 0
  sockets := []
  wire := []
  posts := []

/-! ### Messages -/

def Store.appendMessage (store : Store) (now : Rat) (message : String) (endpointId : Int) (marks : Bool) : Store :=
  { store with
    lastSyncActivity := if marks then now else store.lastSyncActivity
    messages := store.messages.append (endpointId, message) }

def Store.setLatch (store : Store) (kind : Kind) (latch : Latch) : Store :=
  { store with latches := Function.update store.latches kind latch }

def activeCorrelatedRunIds (latches : Kind → Latch) : List String :=
  Kind.all.filterMap fun kind => if (latches kind).state = .syncing then (latches kind).runId else none

def messageMarksSyncActivity (latches : Kind → Latch) (payload : Option Fields) : Bool :=
  if (activeCorrelatedRunIds latches).isEmpty then true
  else match (payloadRunId payload).2 with
    | none => false
    | some observed => (activeCorrelatedRunIds latches).contains observed

def buttonsReleasedBy (latches : Kind → Latch) (payload : Option Fields) : List Kind :=
  match payload with
  | none => []
  | some fields =>
    if isTrue (Fields.get fields "end") then
      (candidateButtons fields).filter fun button =>
        (latches button).state = .syncing && runMatchesButton fields button (latches button).runId
    else []

def publishBackendMessage (now : Rat) (frame : Frame) (endpointId : Int) (store : Store) : Store :=
  let malformed := protocolPayloadIsMalformed frame.payload
  let marks := !malformed && messageMarksSyncActivity store.latches frame.payload
  let released := if malformed then [] else buttonsReleasedBy store.latches frame.payload
  let latches := released.foldl (fun latches button => Function.update latches button .released) store.latches
  { store with latches := latches }.appendMessage now frame.text endpointId marks

/-- `_active_pending_envelope`: whether the envelope is still that of the run holding the latch. -/
def activePendingEnvelope (pending : QueuedCommand) (store : Store) : Bool :=
  match commandToKind pending.command with
  | none => false
  | some kind => (store.latches kind).state = .syncing && (store.latches kind).runId = pending.runId

def failActiveSync (now : Rat) (endpointId : Int) (store : Store) (kind : Kind) : Store :=
  if (store.latches kind).state = .syncing then
    (store.setLatch kind .released).appendMessage now (trustFailure kind (store.latches kind).runId) endpointId true
  else store

def failActiveSyncsForTrustLoss (now : Rat) (endpointId : Int) (store : Store) : Store :=
  Kind.all.foldl (failActiveSync now endpointId) store

def downgradeQueuedRun (now : Rat) (queued : QueuedCommand) (endpointId : Int) (store : Store) : Bool × Store :=
  match commandToKind queued.command, queued.runId with
  | some kind, some runId =>
    if (store.latches kind).state = .syncing ∧ (store.latches kind).runId = some runId then
      (true, (store.setLatch kind { store.latches kind with runId := none }).appendMessage now
        (runModeControl runId) endpointId true)
    else (false, store)
  | _, _ => (false, store)

/-! ### Latches and the queue -/

def syncLatchIdleTimeout : Rat := 600

def expireIdleSyncLatch (now : Rat) (store : Store) : Store :=
  if ∀ kind ∈ Kind.all, (store.latches kind).state = .notStarted then store
  else if now - store.lastSyncActivity < syncLatchIdleTimeout then store
  else { store with latches := fun _ => .released }

def releaseCommand (latches : Kind → Latch) (queued : QueuedCommand) : Kind → Latch :=
  match commandToKind queued.command with
  | none => latches
  | some kind =>
    if (latches kind).runId = queued.runId then Function.update latches kind .released else latches

def discardPendingCommands (store : Store) : Store :=
  { store with latches := store.queue.foldl releaseCommand store.latches, queue := [] }

def maxMessageQueueSize : Nat := 1000

structure DispatchContext where
  identity : Identity
  connection : Option Connection
  useRunId : Bool

section Posting

variable (process : Process)

/-- `send_message`: the run id, and nothing queued once the queue is full. -/
def sendMessage (kind : Kind) (context : DispatchContext) (store : Store) : Option String × Store :=
  if maxMessageQueueSize ≤ store.queue.length then (none, store)
  else
    let runId := if context.useRunId then some (process.tokens store.drawn) else none
    let queued : QueuedCommand :=
      { endpointId := context.identity.1
        identity := context.identity.2
        command := kind.command
        runId := runId
        connectionId := context.connection.map Connection.connectionId
        run := store.posts.length }
    (runId, { store with queue := store.queue ++ [queued], drawn := store.drawn + if context.useRunId then 1 else 0 })

def formatMessageCursor (sequence : Int) : String := process.generation ++ "." ++ toString sequence

inductive PostResponse where
  | error (status : Nat) (text : String)
  | answered (status : Nat) (kind : Kind) (queued : Bool) (cursor : String) (runId : Option String)
  deriving DecidableEq

/-- The part of `_queue_sync_command` after the latches are found free. -/
def acceptSync (now : Rat) (kind : Kind) (context : DispatchContext) (store : Store) : Option String × Store :=
  let (runId, sent) := sendMessage process kind context { store with lastSyncActivity := now }
  (runId,
    { sent with
      latches := Function.update sent.latches kind ⟨.syncing, runId, some store.posts.length⟩
      posts := store.posts ++ [⟨kind, store.taskIdentity, runId, store.messages.last⟩] })

def queueSyncCommand (now : Rat) (kind : Kind) (context : DispatchContext) (store : Store) : PostResponse × Store :=
  if store.taskIdentity ≠ some context.identity then
    (.error 409 "The WebSocket worker changed; retry the request.", store)
  else if context.connection.isSome ∧ store.connectionIdentity ≠ context.connection then
    (.error 409 "The WebSocket connection changed; retry the request.", store)
  else
    let cursor := formatMessageCursor process store.messages.last
    let store := expireIdleSyncLatch now store
    if ∀ kind ∈ Kind.all, (store.latches kind).state = .notStarted then
      let (runId, store) := acceptSync process now kind context store
      (.answered 202 kind true cursor runId, store)
    else
      let latch := store.latches kind
      (.answered 409 kind false cursor (if latch.state = .syncing then latch.runId else none), store)

end Posting

/-! ### Capability of a connection -/

/-- The first critical section of `_backend_supports_ws_run_id`; `none` if the backend has to be asked. -/
def capabilityDecision (key : Connection) (now : Rat) (refresh : Bool) (store : Store) : Option Bool :=
  if store.connectionIdentity ≠ some key then some false
  else match store.capabilityCache key with
    | none => none
    | some cached =>
      if cached.expires = .never then some false
      else if !refresh && !cached.expires.reached now then some cached.supported
      else none

/-- The second one, with the clock as it was before the first. -/
def recordCapability (key : Connection) (before now : Rat) (supported : Bool) (store : Store) : Bool × Store :=
  if (store.capabilityCache key).any fun cached => cached.expires = .never then (false, store)
  else if store.connectionIdentity ≠ some key then (false, store)
  else
    let fresh : Connection → Option Decision :=
      fun key => (store.capabilityCache key).filter fun cached => !cached.expires.reached before
    (supported, { store with capabilityCache := Function.update fresh key (some ⟨.at (now + 30), supported⟩) })

def invalidatePositiveCapability (worker : Identity) (cache : Connection → Option Decision) :
    Connection → Option Decision :=
  fun key => (cache key).filter fun cached => !(key.worker = worker && cached.supported)

def markConnectionCapabilityNegative (key : Connection) (store : Store) : Store :=
  { store with capabilityCache := Function.update store.capabilityCache key (some ⟨.never, false⟩) }

def openConnectionSession (process : Process) (worker : Identity) (store : Store) : String × Store :=
  let connectionId := process.tokens store.drawn
  (connectionId,
    { store with
      drawn := store.drawn + 1
      capabilityCache := invalidatePositiveCapability worker store.capabilityCache
      connectionIdentity := some ⟨worker.1, worker.2, connectionId⟩ })

def closeConnectionSession (key : Connection) (store : Store) : Store :=
  { store with
    capabilityCache := Function.update (invalidatePositiveCapability key.worker store.capabilityCache) key none
    connectionIdentity := if store.connectionIdentity = some key then none else store.connectionIdentity }

/-! ### The worker -/

/-- The critical section of `start_websocket`; `running` is whether the last task is still there and not done. -/
def startWorker (identity : Identity) (running : Bool) (store : Store) : Store :=
  if running ∧ store.taskIdentity = some identity then store
  else
    let store := if store.taskIdentity.isSome then discardPendingCommands store else store
    { store with taskIdentity := some identity }

/-- The part of `stop_websocket` about the connection of the stopped worker. -/
def forgetConnection (identity : Identity) (store : Store) : Store :=
  match store.connectionIdentity with
  | none => store
  | some connection =>
    if connection.endpointId = identity.1 then
      { store with
        capabilityCache :=
          Function.update (invalidatePositiveCapability connection.worker store.capabilityCache) connection none
        connectionIdentity := none }
    else store

def stopWebsocket (endpointId : Option Int) (store : Store) : Bool × Store :=
  match store.taskIdentity with
  | none => (false, store)
  | some identity =>
    if endpointId.any fun endpointId => identity.1 ≠ endpointId then (false, store)
    else
      let store := forgetConnection identity { store with taskIdentity := none }
      (true, discardPendingCommands store)

/-- The critical section of `_command_dispatch_context`, `none` where the worker has changed. -/
def dispatchContext (endpointId : Int) (store : Store) : Option (Identity × Option Connection) :=
  match store.taskIdentity with
  | none => none
  | some identity =>
    if identity.1 ≠ endpointId then none
    else some (identity, store.connectionIdentity.filter fun connection => connection.worker = identity)

end Proxbox.WebSocket
