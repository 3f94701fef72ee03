import Proxbox.WebSocket.Bridge
/-!
# What the programs of the bridge issue

Each thread is followed by a view: the connection it opened, the command it has in hand, and what it has been
told since. From its view alone it is clear that a relay sends only the command it has in hand, over the
connection opened for that command's worker, and after the trust of that worker was confirmed.
-/

namespace Proxbox.WebSocket

open Python Interleaving

structure View where
  socket : Option (Nat × Identity)
  session : Option Connection
  /-- The worker whose trust was last confirmed, since a command was taken off the queue. -/
  confirmed : Option Identity
  /-- The connection for which the last query was answered with yes. -/
  positive : Option Connection
  hand : Option QueuedCommand
  downgraded : Bool
  /-- The command sent last. -/
  sent : Option QueuedCommand

namespace View

def unseen : View := ⟨none, none, none, none, none, false, none⟩

def learn (view : View) : (command : Command) → command.Value → View
  | .loadCredentials endpointId, identity => { view with confirmed := identity.map (endpointId, ·) }
  | .capabilityDecision key _ _, decision => { view with positive := if decision = some true then some key else none }
  | .recordCapability key _ _, supported => { view with positive := if supported = true then some key else none }
  | .connect worker, socket => { view with socket := socket.map (·, worker) }
  | .openSession worker, connectionId => { view with session := some ⟨worker.1, worker.2, connectionId⟩ }
  | .getNowait, some queued =>
    { view with hand := some queued, downgraded := false, confirmed := none, sent := none }
  | .downgrade queued _, downgraded =>
    if view.hand = some queued then { view with downgraded := true }
    else if downgraded = true then { view with hand := some queued, downgraded := true, sent := none }
    else view
  | .release _, _ => { view with hand := none }
  | .failActiveSyncs _, _ => { view with hand := none, sent := none }
  | .send _ _ queued, _ => { view with hand := none, sent := some queued }
  | _, _ => view

def interrupt (view : View) : View := { view with hand := none, sent := none }

def next (view : View) (command : Command) : command.Reply → View
  | .error _ => view.interrupt
  | .ok value => view.learn command value

variable {queued : QueuedCommand}

theorem learn_downgrade_of_hand {view : View} (hhand : view.hand = some queued)
    (endpointId : Int) (downgraded : Bool) :
    view.learn (.downgrade queued endpointId) downgraded = { view with downgraded := true } :=
  if_pos hhand

theorem learn_downgrade_of_idle {view : View} (hhand : view.hand = none) (endpointId : Int)
    (downgraded : Bool) :
    view.learn (.downgrade queued endpointId) downgraded
      = if downgraded = true then { view with hand := some queued, downgraded := true, sent := none } else view :=
  if_neg (by simp [hhand])

def allows (view : View) : Command → Prop
  | .getNowait => view.hand = none
  | .markNegative key => view.session = some key
  | .release queued => view.hand = some queued ∧ view.downgraded = false
  | .downgrade queued _ => view.hand = some queued ∨ view.hand = none ∧ view.sent = some queued
  | .send socket frame queued =>
    view.hand = some queued ∧ view.socket = some (socket, queued.worker) ∧ view.confirmed = some queued.worker ∧
      (frame = queued.command ∨
        ∃ runId, queued.runId = some runId ∧ frame = envelope queued.command runId ∧ view.positive = view.session ∧
          view.session.isSome)
  | .queueSync _ context => context.useRunId = true → context.connection.isSome ∧ view.positive = context.connection
  | _ => True

end View

/-- From the view the task issues only what it allows, and ends with nothing in hand if it raises. -/
def Runs {α : Type} (task : Task α) (view : View) (value : View → α → Prop) : Prop :=
  wpRaising View.next View.allows task view value fun view _ => view.hand = none

namespace Runs

variable {α β : Type} {view : View}

theorem pure {a : α} {value : View → α → Prop} (hvalue : value view a) : Runs (Pure.pure a) view value := hvalue

theorem throw {raised : Interrupt} {value : View → α → Prop} (hhand : view.hand = none) :
    Runs (throw raised) view value := hhand

variable {task : Task α}

theorem bind {rest : α → Task β} {value : View → β → Prop}
    (htask : Runs task view fun view a => Runs (rest a) view value) : Runs (task >>= rest) view value :=
  (wpRaising_bind _ _ _ _ _).mpr htask

theorem ask {c : Command} {value : View → c.Value → Prop} (hallows : view.allows c)
    (hvalue : ∀ a, value (view.learn c a) a) : Runs (ask c) view value :=
  (wpRaising_command c view value _).mpr ⟨hallows, hvalue, fun _ => rfl⟩

theorem imp {value value' : View → α → Prop} (htask : Runs task view value)
    (himp : ∀ view a, value view a → value' view a) : Runs task view value' := by
  refine Program.wp_mono (fun view result hresult => ?_) htask
  cases result with
  | ok a => exact himp view a hresult
  | error raised => exact hresult

theorem tryCatch {handler : Interrupt → Task α} {value : View → α → Prop} (htask : Runs task view value)
    (hhandler : ∀ view raised, view.hand = none → Runs (handler raised) view value) :
    Runs (tryCatch task handler) view value := by
  refine (wpRaising_tryCatch _ _ _ _ _).mpr (Program.wp_mono (fun view result hresult => ?_) htask)
  cases result with
  | ok a => exact hresult
  | error raised => exact hhandler view raised hresult

end Runs

section Tasks

variable {view : View}

theorem runs_reloadCredentials (worker : Identity) {value : View → Bool → Prop}
    (htrusted : value { view with confirmed := some worker } true)
    (hlost : ∀ confirmed, value { view with confirmed := confirmed } false) :
    Runs (reloadCredentials worker) view value := by
  refine .bind (.ask (by trivial) fun identity => .pure ?_)
  by_cases hidentity : identity = some worker.2
  · rw [hidentity, decide_eq_true rfl]
    exact htrusted
  · rw [decide_eq_false hidentity]
    exact hlost _

theorem runs_requireTransmissionTrust (worker : Identity) {value : View → Unit → Prop}
    (htrusted : value { view with confirmed := some worker } ()) :
    Runs (requireTransmissionTrust worker) view value := by
  apply Runs.bind
  apply runs_reloadCredentials
  · exact .pure htrusted
  · intro confirmed
    exact .bind (.ask (by trivial) fun _ => .throw rfl)

theorem runs_backendSupportsWsRunId (key : Connection) (refresh : Bool) {value : View → Bool → Prop}
    (hvalue : ∀ supported : Bool, value { view with positive := if supported then some key else none } supported) :
    Runs (backendSupportsWsRunId key refresh) view value := by
  refine .bind (.ask (by trivial) fun before => .bind (.ask (by trivial) fun decision => ?_))
  cases decision with
  | some answer =>
    apply Runs.pure
    have hanswer := hvalue answer
    cases answer <;> exact hanswer
  | none => exact .bind (.ask (by trivial) fun supported => .ask (by trivial) fun answer => hvalue answer)

/-- What a relay in a session knows between two steps, with `pending` as its pending envelope. -/
structure InSession (socket : Nat) (connection : Connection) (pending : Option QueuedCommand) (view : View) : Prop where
  socket : view.socket = some (socket, connection.worker)
  session : view.session = some connection
  hand : view.hand = none
  pending : ∀ queued ∈ pending, view.sent = some queued ∧ queued.worker = connection.worker

variable {socket : Nat} {connection : Connection} {pending : Option QueuedCommand}

theorem InSession.confirm (hsession : InSession socket connection pending view) (confirmed : Option Identity) :
    InSession socket connection pending { view with confirmed := confirmed } :=
  ⟨hsession.socket, hsession.session, hsession.hand, hsession.pending⟩

theorem InSession.retire (hsession : InSession socket connection pending view) :
    InSession socket connection none view :=
  ⟨hsession.socket, hsession.session, hsession.hand, fun _ hnone => by cases hnone⟩

theorem runs_activePending (hsession : InSession socket connection pending view)
    {value : View → Option QueuedCommand → Prop}
    (hvalue : ∀ pending, InSession socket connection pending view → value view pending) :
    Runs (activePending pending) view value := by
  cases pending with
  | none => exact .pure (hvalue none hsession)
  | some pending =>
    refine .bind (.ask (by trivial) fun active => .pure ?_)
    cases active with
    | true => exact hvalue _ hsession
    | false => exact hvalue _ hsession.retire

/-- A relay with a command in hand that was not tampered with since it was taken off the queue. -/
structure InHand (socket : Nat) (connection : Connection) (queued : QueuedCommand) (view : View) : Prop where
  socket : view.socket = some (socket, connection.worker)
  session : view.session = some connection
  hand : view.hand = some queued

theorem InSession.take (hsession : InSession socket connection pending view) (queued : QueuedCommand) :
    InHand socket connection queued (view.learn .getNowait (some queued)) :=
  ⟨hsession.socket, hsession.session, rfl⟩

variable {queued : QueuedCommand}

theorem runs_commandForWorker {supportsRunId : Bool}
    (hhand : InHand socket connection queued view) (hfresh : view.downgraded = false)
    (hconfirmed : view.confirmed = some connection.worker)
    (hsupports : supportsRunId = true → view.positive = some connection) {value : View → Option String → Prop}
    (hframe : ∀ view frame, InHand socket connection queued view → view.allows (.send socket frame queued) →
      queued.worker = connection.worker → value view (some frame))
    (hdropped : ∀ view, InSession socket connection none view → value view none) :
    Runs (commandForWorker queued connection.worker supportsRunId) view value := by
  unfold commandForWorker
  by_cases hbound : queued.worker = connection.worker
  · rw [if_pos hbound]
    have hlegacy (view : View) (hhand : InHand socket connection queued view)
        (hconfirmed : view.confirmed = some connection.worker) : value view (some queued.command) :=
      hframe view _ hhand ⟨hhand.hand, hbound ▸ hhand.socket, hbound ▸ hconfirmed, .inl rfl⟩ hbound
    cases hrunId : queued.runId with
    | none => exact .pure (hlegacy view hhand hconfirmed)
    | some runId =>
      dsimp only
      by_cases hsupported : supportsRunId = true
      · rw [if_pos hsupported]
        refine .pure (hframe view _ hhand ⟨hhand.hand, hbound ▸ hhand.socket, hbound ▸ hconfirmed, .inr ?_⟩ hbound)
        exact ⟨runId, hrunId, rfl, (hsupports hsupported).trans hhand.session.symm, by rw [hhand.session]; rfl⟩
      · rw [if_neg hsupported]
        refine .bind (.ask (by exact .inl hhand.hand) fun downgraded => .pure ?_)
        rw [View.learn_downgrade_of_hand hhand.hand]
        exact hlegacy _ ⟨hhand.socket, hhand.session, hhand.hand⟩ hconfirmed
  · rw [if_neg hbound]
    refine .bind (.ask (by exact ⟨hhand.hand, hfresh⟩) fun _ => .pure (hdropped _ ?_))
    exact ⟨hhand.socket, hhand.session, rfl, fun _ hnone => by cases hnone⟩

theorem runs_supportsQueued (queued : QueuedCommand) {value : View → Bool → Prop}
    (hvalue : ∀ positive supported, (supported = true → positive = some connection) →
      value { view with positive := positive } supported) :
    Runs (supportsQueued queued connection) view value := by
  unfold supportsQueued
  split_ifs
  · apply runs_backendSupportsWsRunId
    intro supported
    exact hvalue _ supported fun hsupported => if_pos hsupported
  · exact .pure (hvalue view.positive false fun hfalse => by cases hfalse)

theorem runs_dispatchQueuedCommand (hhand : InHand socket connection queued view)
    (hfresh : view.downgraded = false) {value : View → Option String × Option QueuedCommand → Prop}
    (hframe : ∀ view frame pending, InHand socket connection queued view → view.allows (.send socket frame queued) →
      queued.worker = connection.worker → (∀ other ∈ pending, other = queued) → value view (some frame, pending))
    (hdropped : ∀ view, InSession socket connection none view → value view (none, none)) :
    Runs (dispatchQueuedCommand queued connection) view value := by
  apply Runs.bind
  apply runs_supportsQueued
  intro positive supportsRunId hsupports
  apply Runs.bind
  apply runs_requireTransmissionTrust
  apply Runs.bind
  have hhand' : InHand socket connection queued
      { view with positive := positive, confirmed := some connection.worker } :=
    ⟨hhand.socket, hhand.session, hhand.hand⟩
  refine runs_commandForWorker hhand' hfresh rfl hsupports ?_ ?_
  · intro view frame hhand hallows hbound
    refine .pure (hframe view frame _ hhand hallows hbound fun other hother => ?_)
    simp only [Option.isSome_some, Bool.true_and, Option.mem_def, Option.ite_none_right_eq_some] at hother
    exact (Option.some.inj hother.2).symm
  · intro view hsession
    exact .pure (hdropped view hsession)

theorem InHand.sent (hhand : InHand socket connection queued view)
    (hbound : queued.worker = connection.worker) (hpending : ∀ other ∈ pending, other = queued) :
    InSession socket connection pending { view with hand := none, sent := some queued } :=
  ⟨hhand.socket, hhand.session, rfl, fun other hother => by
    obtain rfl := hpending other hother
    exact ⟨rfl, hbound⟩⟩

theorem runs_sendDowngraded (hsession : InSession socket connection (some queued) view)
    (hconfirmed : view.confirmed = some connection.worker) (endpointId : Int) {value : View → Unit → Prop}
    (hvalue : ∀ view, InSession socket connection none view → value view ()) :
    Runs (sendDowngraded socket queued endpointId) view value := by
  obtain ⟨hsent, hbound⟩ := hsession.pending queued rfl
  refine .bind (.ask (by exact .inr ⟨hsession.hand, hsent⟩) fun downgraded => ?_)
  rw [View.learn_downgrade_of_idle hsession.hand]
  cases downgraded with
  | false => exact .pure (hvalue view hsession.retire)
  | true =>
    have hallows : View.allows { view with hand := some queued, downgraded := true, sent := none }
        (.send socket queued.command queued) :=
      ⟨rfl, hbound ▸ hsession.socket, hbound ▸ hconfirmed, .inl rfl⟩
    refine .ask hallows fun _ => hvalue _ ?_
    exact ⟨hsession.socket, hsession.session, rfl, fun _ hnone => by cases hnone⟩

theorem runs_resendLegacy (hsession : InSession socket connection (some queued) view)
    {value : View → Unit → Prop} (hvalue : ∀ view, InSession socket connection none view → value view ()) :
    Runs (resendLegacy socket queued connection) view value := by
  apply Runs.bind
  apply runs_requireTransmissionTrust
  refine .bind (.ask (by exact hsession.session) fun _ => ?_)
  exact runs_sendDowngraded (hsession.confirm _) rfl connection.endpointId hvalue

theorem runs_handleConnectedResponse (frame : Frame) (hsession : InSession socket connection pending view)
    {value : View → Option QueuedCommand → Prop}
    (hvalue : ∀ view pending, InSession socket connection pending view → value view pending) :
    Runs (handleConnectedResponse socket frame pending connection) view value := by
  apply Runs.bind
  apply runs_activePending hsession
  intro pending hsession
  have hpending : Runs (handlePending socket frame pending connection) view value := by
    cases pending with
    | none => exact .bind (.ask (by trivial) fun _ => .pure (hvalue _ none hsession))
    | some queued =>
      dsimp only [handlePending]
      split_ifs
      · apply Runs.bind
        apply runs_resendLegacy hsession
        intro view hsession
        exact .pure (hvalue view none hsession)
      · exact .bind (.ask (by trivial) fun _ => .pure (hvalue _ none hsession.retire))
      · exact .bind (.ask (by trivial) fun _ => .pure (hvalue _ (some queued) hsession))
  cases frame.loaded with
  | raises => exact .throw hsession.hand
  | json value => exact hpending
  | invalid => exact hpending

theorem runs_checkRuntime (lastRuntimeCheck : Rat) (hsession : InSession socket connection pending view)
    {value : View → Rat → Prop} (hvalue : ∀ view time, InSession socket connection pending view → value view time) :
    Runs (checkRuntime connection.worker lastRuntimeCheck) view value := by
  refine .bind (.ask (by trivial) fun time => ?_)
  split_ifs
  · apply Runs.bind
    apply runs_requireTransmissionTrust
    exact .ask (by trivial) fun time => hvalue _ time (hsession.confirm _)
  · exact .pure (hvalue _ _ hsession)

theorem runs_forwardNext (hsession : InSession socket connection pending view) {value : View → Session → Prop}
    (hvalue : ∀ view session, InSession socket connection session.pendingEnvelope view → value view session) :
    Runs (forwardNext socket connection) view value := by
  apply Runs.bind
  apply runs_requireTransmissionTrust
  refine .bind (.ask (by trivial) fun checked => .bind (.ask (by exact hsession.hand) fun queued => ?_))
  cases queued with
  | none => exact .pure (hvalue _ _ (hsession.confirm _).retire)
  | some queued =>
    apply Runs.bind
    refine runs_dispatchQueuedCommand ((hsession.confirm _).take queued) rfl ?_ ?_
    · intro view frame pending hhand hallows hbound hpending
      exact .bind (.ask hallows fun _ => .pure (hvalue _ _ (hhand.sent hbound hpending)))
    · intro view hsession
      exact .bind (.pure (.pure (hvalue view _ hsession)))

theorem runs_sessionRound (session : Session) (hsession : InSession socket connection session.pendingEnvelope view)
    {value : View → Session → Prop}
    (hvalue : ∀ view session, InSession socket connection session.pendingEnvelope view → value view session) :
    Runs (sessionRound socket connection session) view value := by
  have hreceive (view : View) (session : Session) (hsession : InSession socket connection session.pendingEnvelope view) :
      Runs (receiveNext socket connection session) view value := by
    refine .bind (.ask (by trivial) fun response => ?_)
    cases response with
    | none =>
      apply Runs.bind
      apply runs_requireTransmissionTrust
      exact .bind (.ask (by trivial) fun checked => .pure (hvalue _ _ (hsession.confirm _)))
    | some frame =>
      apply Runs.bind
      apply runs_handleConnectedResponse frame hsession
      intro view pending hsession
      exact .pure (hvalue view _ hsession)
  apply Runs.bind
  apply runs_checkRuntime session.lastRuntimeCheck hsession
  intro view checked hsession
  apply Runs.bind
  apply runs_activePending hsession
  intro pending hsession
  apply Runs.bind
  cases pending with
  | some queued => exact .pure (hreceive view _ hsession)
  | none =>
    refine .bind (.ask (by trivial) fun empty => ?_)
    cases empty with
    | true => exact .pure (hreceive _ _ hsession)
    | false => exact runs_forwardNext hsession hreceive

theorem runs_sessionLoop (rounds : Nat) (session : Session)
    (hsession : InSession socket connection session.pendingEnvelope view) {value : View → Unit → Prop} :
    Runs (sessionLoop socket connection rounds session) view value := by
  induction rounds generalizing view session with
  | zero => exact .throw hsession.hand
  | succ rounds ih =>
    apply Runs.bind
    apply runs_sessionRound session hsession
    intro view session hsession
    exact ih session hsession

theorem runs_sessionOutcome (rounds : Nat) (hsession : InSession socket connection none view) :
    Runs (sessionOutcome rounds socket connection) view fun view _ => view.hand = none := by
  apply Runs.tryCatch
  · exact .bind (.bind (.ask (by trivial) fun started => runs_sessionLoop rounds ⟨started, none⟩ hsession))
  · intro view raised hhand
    exact .pure hhand

theorem runs_relaySession (rounds : Nat) (worker : Identity) (hsocket : view.socket = some (socket, worker))
    (hhand : view.hand = none) :
    Runs (relaySession rounds socket worker) view fun view _ => view.hand = none := by
  refine .bind (.ask (by trivial) fun connectionId => .bind ?_)
  have hsession : InSession socket ⟨worker.1, worker.2, connectionId⟩ none
      (view.learn (.openSession worker) connectionId) :=
    ⟨hsocket, rfl, hhand, fun _ hnone => by cases hnone⟩
  refine (runs_sessionOutcome rounds hsession).imp fun view outcome hhand => ?_
  refine .bind (.ask (by trivial) fun _ => ?_)
  split_ifs
  · exact .pure hhand
  · exact .throw hhand

theorem runs_connectAndRelay (rounds : Nat) (worker : Identity) (hhand : view.hand = none) :
    Runs (connectAndRelay rounds worker) view fun view _ => view.hand = none := by
  refine .bind (.ask (by trivial) fun socket => ?_)
  cases socket with
  | none => exact .pure hhand
  | some socket =>
    apply Runs.bind
    apply runs_reloadCredentials
    · exact .bind (.ask (by trivial) fun _ => runs_relaySession rounds worker rfl hhand)
    · intro confirmed
      exact .pure hhand

theorem runs_websocketClient (rounds : Nat) (worker : Identity) (attempts : Nat) (hhand : view.hand = none) :
    Runs (websocketClient rounds worker attempts) view fun view _ => view.hand = none := by
  induction attempts generalizing view with
  | zero => exact .throw hhand
  | succ attempts ih =>
    apply Runs.bind
    apply runs_reloadCredentials
    · apply Runs.tryCatch
      · exact runs_connectAndRelay rounds worker hhand
      · intro view raised hhand
        split_ifs
        · exact .throw hhand
        · exact .pure hhand
        · exact .bind (.ask (by trivial) fun _ => ih hhand)
    · intro confirmed
      exact .pure hhand

theorem runs_startWebsocket (endpointId : Int) (hhand : view.hand = none) {value : View → Bool → Prop}
    (hvalue : ∀ view started, view.hand = none → value view started) :
    Runs (startWebsocket endpointId) view value := by
  refine .bind (.ask (by trivial) fun identity => ?_)
  cases identity with
  | none => exact .bind (.ask (by trivial) fun _ => .pure (hvalue _ false hhand))
  | some identity => exact .bind (.ask (by trivial) fun _ => .pure (hvalue _ true hhand))

theorem runs_supportsCurrent (connection : Option Connection) {value : View → Bool → Prop}
    (hvalue : ∀ positive supported, (supported = true → connection.isSome ∧ positive = connection) →
      value { view with positive := positive } supported) :
    Runs (supportsCurrent connection) view value := by
  cases connection with
  | none => exact .pure (hvalue view.positive false fun hfalse => by cases hfalse)
  | some connection =>
    apply runs_backendSupportsWsRunId
    intro supported
    exact hvalue _ supported fun hsupported => ⟨rfl, if_pos hsupported⟩

theorem runs_postSync (message : String) (endpointId : Int) (hhand : view.hand = none) :
    Runs (postSync message endpointId) view fun view _ => view.hand = none := by
  unfold postSync
  split
  · exact .pure hhand
  · apply Runs.bind
    apply runs_startWebsocket endpointId hhand
    intro view started hhand
    split_ifs
    · refine .bind (.ask (by trivial) fun context => ?_)
      rcases context with _ | ⟨identity, connection⟩
      · exact .pure hhand
      · apply Runs.bind
        apply runs_supportsCurrent
        intro positive useRunId hpositive
        exact .ask (by exact hpositive) fun _ => hhand
    · exact .pure hhand

theorem runs_getMessages (process : Process) (after : Option String) (endpointId : Int) (hhand : view.hand = none) :
    Runs (getMessages process after endpointId) view fun view _ => view.hand = none := by
  unfold getMessages
  split
  · exact .pure hhand
  · apply Runs.bind
    apply runs_startWebsocket endpointId hhand
    intro view started hhand
    split_ifs
    · exact .bind (.ask (by trivial) fun _ => .pure hhand)
    · exact .pure hhand

end Tasks

theorem program_issues (process : Process) (actor : Actor) :
    (program process actor).wp View.next View.allows View.unseen fun view _ => view.hand = none := by
  cases actor <;> rw [program, wp_detached_iff]
  case worker rounds attempts identity => exact runs_websocketClient rounds identity attempts rfl
  case post message endpointId => exact runs_postSync message endpointId rfl
  case get after endpointId => exact runs_getMessages process after endpointId rfl
  case query key refresh => exact runs_backendSupportsWsRunId key refresh fun _ => rfl
  case stop endpointId => exact Runs.ask (by trivial) fun _ => rfl
  case record message endpointId => exact Runs.ask (by trivial) fun _ => rfl

/-- The bridge, with its threads followed by their views. -/
def bridge (process : Process) : System Actor Choice Store View Command Command.Reply where
  program := program process
  exec := exec process
  unseen := View.unseen
  next := View.next

end Proxbox.WebSocket
