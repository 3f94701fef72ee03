import Proxbox.Library.Interleaving
import Proxbox.WebSocket.Polling
/-!
# The bridge between polling requests and the backend

The programs of the worker, of a post and of a poll, as they use the shared state one critical section at a
time. Between any two of their commands any other program may run. What the clock shows, what the database and
the backend answer, what a connection delivers, and where an await is interrupted, is a choice made anew at each
command.
-/

namespace Proxbox.WebSocket

open Python Interleaving

/-! ### Commands -/

/-- What an await may raise, `_WebSocketTrustLost` with it. -/
inductive Interrupt where
  | cancelled
  | connectionClosed
  | handshakeRefused
  | otherError
  | trustLost
  deriving DecidableEq

/-- The critical sections, and the steps of the programs between them. -/
inductive Command where
  | monotonic
  | loadCredentials (endpointId : Int)
  | probeBackend (worker : Identity)
  | capabilityDecision (key : Connection) (now : Rat) (refresh : Bool)
  | recordCapability (key : Connection) (before : Rat) (supported : Bool)
  | markNegative (key : Connection)
  | connect (worker : Identity)
  | sendKey (socket : Nat)
  | openSession (worker : Identity)
  | closeSession (key : Connection)
  | queueEmpty
  | getNowait
  | activePending (pending : QueuedCommand)
  | failActiveSyncs (endpointId : Int)
  | downgrade (queued : QueuedCommand) (endpointId : Int)
  | release (queued : QueuedCommand)
  | send (socket : Nat) (frame : String) (queued : QueuedCommand)
  | receive (socket : Nat)
  | publish (frame : Frame) (endpointId : Int)
  | sleep
  | startWorker (identity : Identity)
  | stop (endpointId : Option Int)
  | dispatchContext (endpointId : Int)
  | queueSync (kind : Kind) (context : DispatchContext)
  | record (message : String) (endpointId : Int)
  | read (endpointId : Int) (after : Option Int)

abbrev Command.Value : Command → Type
  | .monotonic => Rat
  | .loadCredentials _ => Option String
  | .probeBackend _ | .recordCapability _ _ _ | .queueEmpty | .activePending _ | .downgrade _ _ | .stop _ => Bool
  | .capabilityDecision _ _ _ => Option Bool
  | .connect _ => Option Nat
  | .openSession _ => String
  | .getNowait => Option QueuedCommand
  | .receive _ => Option Frame
  | .dispatchContext _ => Option (Identity × Option Connection)
  | .queueSync _ _ => PostResponse
  | .read _ _ => MessagePage
  | .markNegative _ | .sendKey _ | .closeSession _ | .failActiveSyncs _ | .release _ | .send _ _ _ | .publish _ _
  | .sleep | .startWorker _ | .record _ _ => Unit

/-- Whether the program waits for it, and may be interrupted there. -/
def Command.awaits : Command → Bool
  | .loadCredentials _ | .probeBackend _ | .connect _ | .sendKey _ | .send _ _ _ | .receive _ | .sleep => true
  | _ => false

abbrev Command.Reply (command : Command) : Type := Except Interrupt command.Value

structure Choice where
  now : Rat
  raised : Option Interrupt
  /-- Whether an interrupted send had put its frame on the wire. -/
  written : Bool
  identity : Option String
  supported : Bool
  redirected : Bool
  received : Option Frame
  running : Bool

def Choice.awaited {α : Type} (choice : Choice) (value : α) : Except Interrupt α :=
  match choice.raised with
  | some interrupt => .error interrupt
  | none => .ok value

def exec (process : Process) (store : Store) (choice : Choice) : (command : Command) → command.Reply × Store
  | .monotonic => (.ok choice.now, store)
  | .loadCredentials _ => (choice.awaited choice.identity, store)
  | .probeBackend _ => (choice.awaited choice.supported, store)
  | .capabilityDecision key now refresh => (.ok (capabilityDecision key now refresh store), store)
  | .recordCapability key before supported =>
    let (answer, store) := recordCapability key before choice.now supported store
    (.ok answer, store)
  | .markNegative key => (.ok (), markConnectionCapabilityNegative key store)
  | .connect worker =>
    if choice.raised.isSome ∨ choice.redirected then (choice.awaited none, store)
    else (.ok (some store.sockets.length), { store with sockets := store.sockets ++ [worker] })
  | .sendKey _ => (choice.awaited (), store)
  | .openSession worker =>
    let (connectionId, store) := openConnectionSession process worker store
    (.ok connectionId, store)
  | .closeSession key => (.ok (), closeConnectionSession key store)
  | .queueEmpty => (.ok store.queue.isEmpty, store)
  | .getNowait => (.ok store.queue.head?, { store with queue := store.queue.tail })
  | .activePending pending => (.ok (activePendingEnvelope pending store), store)
  | .failActiveSyncs endpointId => (.ok (), failActiveSyncsForTrustLoss choice.now endpointId store)
  | .downgrade queued endpointId =>
    let (downgraded, store) := downgradeQueuedRun choice.now queued endpointId store
    (.ok downgraded, store)
  | .release queued => (.ok (), { store with latches := releaseCommand store.latches queued })
  | .send socket frame queued =>
    (choice.awaited (),
      if choice.raised.isNone ∨ choice.written then { store with wire := store.wire ++ [⟨socket, frame, queued⟩] }
      else store)
  | .receive _ => (choice.awaited choice.received, store)
  | .publish frame endpointId => (.ok (), publishBackendMessage choice.now frame endpointId store)
  | .sleep => (choice.awaited (), store)
  | .startWorker identity => (.ok (), startWorker identity choice.running store)
  | .stop endpointId =>
    let (stopped, store) := stopWebsocket endpointId store
    (.ok stopped, store)
  | .dispatchContext endpointId => (.ok (dispatchContext endpointId store), store)
  | .queueSync kind context =>
    let (response, store) := queueSyncCommand process choice.now kind context store
    (.ok response, store)
  | .record message endpointId => (.ok (), store.appendMessage choice.now message endpointId true)
  | .read endpointId after => (.ok (readMessagesAfter store.messages endpointId after messagePageSize), store)

/-! ### The relay -/

abbrev Task := ExceptT Interrupt (Program Command Command.Reply)

def ask (c : Command) : Task c.Value := command c

/-- Whether the endpoint is still trusted under the identity. -/
def reloadCredentials (worker : Identity) : Task Bool := do
  let identity : Option String ← ask (.loadCredentials worker.1)
  return identity = some worker.2

def requireTransmissionTrust (worker : Identity) : Task Unit := do
  let trusted ← reloadCredentials worker
  if trusted then return ()
  else do
    let _ ← ask (.failActiveSyncs worker.1)
    throw .trustLost

def backendSupportsWsRunId (key : Connection) (refresh : Bool) : Task Bool := do
  let before : Rat ← ask .monotonic
  let decision : Option Bool ← ask (.capabilityDecision key before refresh)
  match decision with
  | some answer => return answer
  | none => do
      let supported : Bool ← ask (.probeBackend key.worker)
      ask (.recordCapability key before supported)

def activePending (pending : Option QueuedCommand) : Task (Option QueuedCommand) :=
  match pending with
  | none => return none
  | some pending => do
      let active : Bool ← ask (.activePending pending)
      return if active then some pending else none

def commandForWorker (queued : QueuedCommand) (worker : Identity) (supportsRunId : Bool) : Task (Option String) :=
  if queued.worker = worker then
    match queued.runId with
    | none => return some queued.command
    | some runId =>
      if supportsRunId then return some (envelope queued.command runId)
      else do
        let _ ← ask (.downgrade queued worker.1)
        return some queued.command
  else do
    let _ ← ask (.release queued)
    return none

def supportsQueued (queued : QueuedCommand) (connection : Connection) : Task Bool :=
  if queued.worker = connection.worker ∧ queued.runId.isSome then backendSupportsWsRunId connection true
  else return false

/-- The frame to send for a command, and the command again if its frame is an envelope. -/
def dispatchQueuedCommand (queued : QueuedCommand) (connection : Connection) :
    Task (Option String × Option QueuedCommand) := do
  let supportsRunId ← supportsQueued queued connection
  requireTransmissionTrust connection.worker
  let frame ← commandForWorker queued connection.worker supportsRunId
  return (frame, if frame.isSome && supportsRunId then some queued else none)

section Relaying

variable (socket : Nat)

def sendFrame (frame : Option String) (queued : QueuedCommand) : Task Unit :=
  match frame with
  | none => return ()
  | some frame => ask (.send socket frame queued)

def sendDowngraded (pending : QueuedCommand) (endpointId : Int) : Task Unit := do
  let downgraded : Bool ← ask (.downgrade pending endpointId)
  sendFrame socket (if downgraded then some pending.command else none) pending

def resendLegacy (pending : QueuedCommand) (connection : Connection) : Task Unit := do
  requireTransmissionTrust connection.worker
  let _ ← ask (.markNegative connection)
  sendDowngraded socket pending connection.endpointId

def handlePending (frame : Frame) (pending : Option QueuedCommand) (connection : Connection) :
    Task (Option QueuedCommand) :=
  match pending with
  | none => do
      let _ ← ask (.publish frame connection.endpointId)
      return none
  | some pending =>
    if isInvalidCommandFrame frame pending then do
      resendLegacy socket pending connection
      return none
    else do
      let _ ← ask (.publish frame connection.endpointId)
      return if (payloadRunId frame.payload).2 = pending.runId then none else some pending

def handleConnectedResponse (frame : Frame) (pending : Option QueuedCommand) (connection : Connection) :
    Task (Option QueuedCommand) := do
  let pending ← activePending pending
  match frame.loaded with
  | .raises => throw .otherError
  | _ => handlePending socket frame pending connection

/-- What a relay keeps from one round of its loop to the next. -/
structure Session where
  lastRuntimeCheck : Rat
  pendingEnvelope : Option QueuedCommand

def wsRuntimeRecheck : Rat := 2

def checkRuntime (worker : Identity) (lastRuntimeCheck : Rat) : Task Rat := do
  let time : Rat ← ask .monotonic
  if wsRuntimeRecheck ≤ time - lastRuntimeCheck then do
    requireTransmissionTrust worker
    ask .monotonic
  else return lastRuntimeCheck

def forwardNext (connection : Connection) : Task Session := do
  requireTransmissionTrust connection.worker
  let checked : Rat ← ask .monotonic
  let queued : Option QueuedCommand ← ask .getNowait
  match queued with
  | none => return ⟨checked, none⟩
  | some queued => do
      let dispatched ← dispatchQueuedCommand queued connection
      sendFrame socket dispatched.1 queued
      return ⟨checked, dispatched.2⟩

def forwardQueued (connection : Connection) (session : Session) : Task Session :=
  match session.pendingEnvelope with
  | some _ => return session
  | none => do
      let empty : Bool ← ask .queueEmpty
      if empty then return session else forwardNext socket connection

def receiveNext (connection : Connection) (session : Session) : Task Session := do
  let response : Option Frame ← ask (.receive socket)
  match response with
  | none => do
      requireTransmissionTrust connection.worker
      let checked : Rat ← ask .monotonic
      return { session with lastRuntimeCheck := checked }
  | some frame => do
      let pending ← handleConnectedResponse socket frame session.pendingEnvelope connection
      return { session with pendingEnvelope := pending }

def sessionRound (connection : Connection) (session : Session) : Task Session := do
  let checked ← checkRuntime connection.worker session.lastRuntimeCheck
  let pending ← activePending session.pendingEnvelope
  let session ← forwardQueued socket connection ⟨checked, pending⟩
  receiveNext socket connection session

end Relaying

/-- `_run_connected_session`. The loop has no end of its own: a run of it is cut after any number of rounds, as
a cancellation would. -/
def sessionLoop (socket : Nat) (connection : Connection) : Nat → Session → Task Unit
  | 0, _ => throw .cancelled
  | rounds + 1, session => do
      let session ← sessionRound socket connection session
      sessionLoop socket connection rounds session

def runConnectedSession (rounds : Nat) (socket : Nat) (connection : Connection) : Task Unit := do
  let started : Rat ← ask .monotonic
  sessionLoop socket connection rounds ⟨started, none⟩

def sessionOutcome (rounds : Nat) (socket : Nat) (connection : Connection) : Task Interrupt :=
  tryCatch (do runConnectedSession rounds socket connection; return .cancelled) fun raised => return raised

def relaySession (rounds : Nat) (socket : Nat) (worker : Identity) : Task Unit := do
  let connectionId : String ← ask (.openSession worker)
  let connection : Connection := ⟨worker.1, worker.2, connectionId⟩
  let outcome ← sessionOutcome rounds socket connection
  let _ ← ask (.closeSession connection)
  if outcome = .trustLost then return () else throw outcome

def connectAndRelay (rounds : Nat) (worker : Identity) : Task Unit := do
  let socket : Option Nat ← ask (.connect worker)
  match socket with
  | none => return ()
  | some socket => do
      let trusted ← reloadCredentials worker
      if trusted then do
        let _ ← ask (.sendKey socket)
        relaySession rounds socket worker
      else return ()

/-- `websocket_client`, cut after any number of connection attempts. -/
def websocketClient (rounds : Nat) (worker : Identity) : Nat → Task Unit
  | 0 => throw .cancelled
  | attempts + 1 => do
      let trusted ← reloadCredentials worker
      if trusted then
        tryCatch (connectAndRelay rounds worker) fun raised =>
          if raised = .cancelled then throw raised
          else if raised = .handshakeRefused then return ()
          else do
            let _ ← ask .sleep
            websocketClient rounds worker attempts
      else return ()

/-! ### Requests -/

def startWebsocket (endpointId : Int) : Task Bool := do
  let identity : Option String ← ask (.loadCredentials endpointId)
  match identity with
  | none => do
      let _ ← ask (.stop (some endpointId))
      return false
  | some identity => do
      let _ ← ask (.startWorker (endpointId, identity))
      return true

def supportsCurrent (connection : Option Connection) : Task Bool :=
  match connection with
  | none => return false
  | some connection => backendSupportsWsRunId connection false

/-- The post of a user who may start a sync, for the endpoint the shared worker is for. -/
def postSync (message : String) (endpointId : Int) : Task PostResponse :=
  match Kind.ofName message with
  | none => return .error 404 "Unknown sync kind."
  | some kind => do
      let started ← startWebsocket endpointId
      if started then do
        let context : Option (Identity × Option Connection) ← ask (.dispatchContext endpointId)
        match context with
        | none => return .error 409 "The WebSocket worker changed; retry the request."
        | some (identity, connection) => do
            let useRunId ← supportsCurrent connection
            ask (.queueSync kind ⟨identity, connection, useRunId⟩)
      else return .error 404 "Trusted WebSocket configuration not found"

inductive GetResponse where
  | error (status : Nat) (text : String)
  | page (page : MessagePage) (nextCursor : String) (reset : Bool)

def getMessages (process : Process) (after : Option String) (endpointId : Int) : Task GetResponse :=
  match parseMessageCursor process after with
  | none => return .error 400 "Invalid cursor."
  | some (cursor, reset) => do
      let started ← startWebsocket endpointId
      if started then do
        let page : MessagePage ← ask (.read endpointId (cursor.map Int.ofNat))
        return .page page (formatMessageCursor process page.nextSequence) reset
      else return .error 404 "Trusted WebSocket configuration not found"

/-! ### Actors -/

/-- Who uses the shared state. A query whose relay was cancelled goes on in its own thread, so that a query is an
actor too. -/
inductive Actor where
  | worker (rounds attempts : Nat) (identity : Identity)
  | post (message : String) (endpointId : Int)
  | get (after : Option String) (endpointId : Int)
  | query (key : Connection) (refresh : Bool)
  | stop (endpointId : Option Int)
  | record (message : String) (endpointId : Int)

def program (process : Process) : Actor → Program Command Command.Reply Unit
  | .worker rounds attempts identity => detached (websocketClient rounds identity attempts)
  | .post message endpointId => detached (postSync message endpointId)
  | .get after endpointId => detached (getMessages process after endpointId)
  | .query key refresh => detached (backendSupportsWsRunId key refresh)
  | .stop endpointId => detached (ask (.stop endpointId))
  | .record message endpointId => detached (ask (.record message endpointId))

end Proxbox.WebSocket
