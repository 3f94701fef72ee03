import Proxbox.WebSocket.Relay
/-!
# Latches

What a command can do to the latch of a kind, said once for all of them, and what follows for every run: at most
one kind is latched, a run id is recorded only for a latched kind, and a correlated run keeps its latch until
one of four things happens to it.
-/

namespace Proxbox.WebSocket

open Python Interleaving

/-! ### One critical section -/

section Sections

variable {latches : Kind → Latch} {kind : Kind} {store : Store}

theorem foldl_update_apply (buttons : List Kind) (latch : Latch) (kind : Kind) :
    buttons.foldl (fun latches button => Function.update latches button latch) latches kind
      = if kind ∈ buttons then latch else latches kind := by
  induction buttons generalizing latches with
  | nil => simp
  | cons button buttons ih =>
    rw [List.foldl_cons, ih, Function.update_apply]
    by_cases hkind : kind = button
    · simp [hkind]
    · simp [hkind]

variable (now : Rat) (endpointId : Int)

theorem publishBackendMessage_latches (frame : Frame) (endpointId : Int) (store : Store) (kind : Kind) :
    (publishBackendMessage now frame endpointId store).latches kind = store.latches kind ∨
      (protocolPayloadIsMalformed frame.payload = false ∧ kind ∈ buttonsReleasedBy store.latches frame.payload) ∧
        (publishBackendMessage now frame endpointId store).latches kind = .released := by
  simp only [publishBackendMessage, Store.appendMessage, foldl_update_apply]
  by_cases hmalformed : protocolPayloadIsMalformed frame.payload = true
  · simp [hmalformed]
  · by_cases hreleased : kind ∈ buttonsReleasedBy store.latches frame.payload
    · exact .inr ⟨⟨Bool.eq_false_of_not_eq_true hmalformed, hreleased⟩, by simp [hmalformed, hreleased]⟩
    · exact .inl (by simp [hmalformed, hreleased])

theorem failActiveSync_latches (store : Store) (other kind : Kind) :
    (failActiveSync now endpointId store other).latches kind
      = if kind = other ∧ (store.latches kind).state = .syncing then .released else store.latches kind := by
  unfold failActiveSync
  by_cases hkind : kind = other
  · subst hkind
    split_ifs <;> simp_all [Store.setLatch, Store.appendMessage]
  · split_ifs <;> simp_all [Store.setLatch, Store.appendMessage]

theorem failActiveSyncs_latches (store : Store) (kind : Kind) :
    (failActiveSyncsForTrustLoss now endpointId store).latches kind
      = if (store.latches kind).state = .syncing then .released else store.latches kind := by
  have hfold (kinds : List Kind) (store : Store) :
      (kinds.foldl (failActiveSync now endpointId) store).latches kind
        = if kind ∈ kinds ∧ (store.latches kind).state = .syncing then .released else store.latches kind := by
    induction kinds generalizing store with
    | nil => simp
    | cons other kinds ih =>
      rw [List.foldl_cons, ih, failActiveSync_latches]
      by_cases hsyncing : (store.latches kind).state = .syncing
      · by_cases hother : kind = other
        · subst hother
          simp [hsyncing, Latch.released]
        · simp [hother]
      · simp [hsyncing]
  rw [failActiveSyncsForTrustLoss, hfold]
  simp

theorem releaseCommand_apply (latches : Kind → Latch) (queued : QueuedCommand) (kind : Kind) :
    releaseCommand latches queued kind
      = if commandToKind queued.command = some kind ∧ (latches kind).runId = queued.runId then .released
        else latches kind := by
  unfold releaseCommand
  cases hcommand : commandToKind queued.command with
  | none => simp
  | some other =>
    dsimp only
    by_cases hkind : kind = other
    · subst hkind
      split_ifs <;> simp_all
    · have hother : ¬ (some other = some kind) := fun h => hkind (Option.some.inj h).symm
      split_ifs <;> simp_all

variable {dropped : List QueuedCommand}

theorem foldl_releaseCommand_released (hreleased : latches kind = .released) :
    dropped.foldl releaseCommand latches kind = .released := by
  induction dropped generalizing latches with
  | nil => exact hreleased
  | cons queued dropped ih =>
    rw [List.foldl_cons]
    apply ih
    rw [releaseCommand_apply, hreleased, ite_self]

theorem foldl_releaseCommand (dropped : List QueuedCommand) (latches : Kind → Latch) (kind : Kind) :
    dropped.foldl releaseCommand latches kind = latches kind ∨
      dropped.foldl releaseCommand latches kind = .released ∧
        ∃ queued ∈ dropped, commandToKind queued.command = some kind ∧ (latches kind).runId = queued.runId := by
  induction dropped generalizing latches with
  | nil => exact .inl rfl
  | cons queued dropped ih =>
    rw [List.foldl_cons]
    by_cases hown : commandToKind queued.command = some kind ∧ (latches kind).runId = queued.runId
    · refine .inr ⟨foldl_releaseCommand_released ?_, queued, List.mem_cons_self, hown⟩
      rw [releaseCommand_apply, if_pos hown]
    · have hkept : releaseCommand latches queued kind = latches kind := by
        rw [releaseCommand_apply, if_neg hown]
      rcases ih (releaseCommand latches queued) with hsame | ⟨hreleased, other, hother, hkind, hrunId⟩
      · exact .inl (hsame.trans hkept)
      · exact .inr ⟨hreleased, other, List.mem_cons_of_mem _ hother, hkind, hkept ▸ hrunId⟩

theorem foldl_releaseCommand_of_mem {queued : QueuedCommand} (hmem : queued ∈ dropped)
    (hkind : commandToKind queued.command = some kind) (hrunId : (latches kind).runId = queued.runId) :
    dropped.foldl releaseCommand latches kind = .released := by
  induction dropped generalizing latches with
  | nil => cases hmem
  | cons head dropped ih =>
    rw [List.foldl_cons]
    by_cases hown : commandToKind head.command = some kind ∧ (latches kind).runId = head.runId
    · apply foldl_releaseCommand_released
      rw [releaseCommand_apply, if_pos hown]
    · have hmem : queued ∈ dropped := by
        rcases List.mem_cons.1 hmem with rfl | hmem
        · exact absurd ⟨hkind, hrunId⟩ hown
        · exact hmem
      apply ih hmem
      rw [releaseCommand_apply, if_neg hown, hrunId]

theorem expireIdleSyncLatch_cases (store : Store) :
    expireIdleSyncLatch now store = store ∨
      (syncLatchIdleTimeout ≤ now - store.lastSyncActivity ∧
        expireIdleSyncLatch now store = { store with latches := fun _ => .released }) := by
  unfold expireIdleSyncLatch
  split_ifs with hfree hactive
  · exact .inl rfl
  · exact .inl rfl
  · exact .inr ⟨not_lt.1 hactive, rfl⟩

theorem downgradeQueuedRun_cases (queued : QueuedCommand) (endpointId : Int) (store : Store) :
    downgradeQueuedRun now queued endpointId store = (false, store) ∨
      ∃ kind runId, commandToKind queued.command = some kind ∧ queued.runId = some runId ∧
        (store.latches kind).state = .syncing ∧ (store.latches kind).runId = some runId ∧
        downgradeQueuedRun now queued endpointId store
          = (true, (store.setLatch kind { store.latches kind with runId := none }).appendMessage now
              (runModeControl runId) endpointId true) := by
  unfold downgradeQueuedRun
  split
  · next kind runId hkind hrunId =>
      split_ifs with hlatch
      · exact .inr ⟨kind, runId, hkind, hrunId, hlatch.1, hlatch.2, rfl⟩
      · exact .inl rfl
  · exact .inl rfl

end Sections

/-! ### One command -/

def Command.drops (store : Store) : Command → List QueuedCommand
  | .startWorker _ | .stop _ => store.queue
  | .release queued => [queued]
  | _ => []

/-- Why a command releases the latch of a kind. -/
inductive LatchRelease (store store' : Store) (choice : Choice) (command : Command) (kind : Kind) : Prop where
  | terminal (frame : Frame) (endpointId : Int) (hcommand : command = .publish frame endpointId)
      (hreleased : protocolPayloadIsMalformed frame.payload = false ∧
        kind ∈ buttonsReleasedBy store.latches frame.payload)
  | trustLost (endpointId : Int) (hcommand : command = .failActiveSyncs endpointId)
      (hsyncing : (store.latches kind).state = .syncing)
  | expired (posted : Kind) (context : DispatchContext) (hcommand : command = .queueSync posted context)
      (hidle : syncLatchIdleTimeout ≤ choice.now - store.lastSyncActivity)
  | discarded (queued : QueuedCommand) (hdropped : queued ∈ command.drops store)
      (hkind : commandToKind queued.command = some kind) (hrunId : (store.latches kind).runId = queued.runId)
      (hgone : command = .release queued ∨ store'.queue = [])

/-- What a command can do to the latch of a kind. -/
inductive LatchChange (store store' : Store) (choice : Choice) (command : Command) (kind : Kind) : Prop where
  | kept (hlatch : store'.latches kind = store.latches kind)
  | released (hcause : LatchRelease store store' choice command kind) (hlatch : store'.latches kind = .released)
  | downgraded (queued : QueuedCommand) (endpointId : Int) (runId : String)
      (hcommand : command = .downgrade queued endpointId) (hqueued : queued.runId = some runId)
      (hkind : commandToKind queued.command = some kind) (hsyncing : (store.latches kind).state = .syncing)
      (hrunId : (store.latches kind).runId = some runId)
      (hlatch : store'.latches kind = { store.latches kind with runId := none })
  | accepted (context : DispatchContext) (runId : Option String) (hcommand : command = .queueSync kind context)
      (hbefore : (store.latches kind).state = .notStarted ∨
        syncLatchIdleTimeout ≤ choice.now - store.lastSyncActivity)
      (hothers : ∀ other, other ≠ kind → (store'.latches other).state = .notStarted)
      (hlatch : store'.latches kind = ⟨.syncing, runId, some store.posts.length⟩)
      (hposts : store'.posts = store.posts ++ [⟨kind, store.taskIdentity, runId, store.messages.last⟩])

variable (process : Process)

theorem sendMessage_latches (kind : Kind) (context : DispatchContext) (store : Store) :
    (sendMessage process kind context store).2.latches = store.latches := by
  unfold sendMessage
  split_ifs <;> rfl

theorem acceptSync_latches (now : Rat) (kind : Kind) (context : DispatchContext) (store : Store) :
    (acceptSync process now kind context store).2.latches
      = Function.update store.latches kind
          ⟨.syncing, (acceptSync process now kind context store).1, some store.posts.length⟩ := by
  simp only [acceptSync, sendMessage_latches]

/-- The store in which a post finds the latches free: as it was, or with the latches expired. -/
inductive Freed (now : Rat) (store : Store) : Store → Prop where
  | free (hfree : ∀ kind, (store.latches kind).state = .notStarted) : Freed now store store
  | expired (hidle : syncLatchIdleTimeout ≤ now - store.lastSyncActivity) :
      Freed now store { store with latches := fun _ => .released }

theorem Freed.notStarted {now : Rat} {store free : Store} (hfreed : Freed now store free) (kind : Kind) :
    (free.latches kind).state = .notStarted := by
  cases hfreed with
  | free hfree => exact hfree kind
  | expired hidle => rfl

theorem queueSyncCommand_cases (now : Rat) (kind : Kind) (context : DispatchContext) (store : Store) :
    (queueSyncCommand process now kind context store).2 = store ∨
      ∃ free, Freed now store free ∧ store.taskIdentity = some context.identity ∧
        (context.connection.isSome → store.connectionIdentity = context.connection) ∧
        queueSyncCommand process now kind context store
          = (.answered 202 kind true (formatMessageCursor process store.messages.last)
              (acceptSync process now kind context free).1, (acceptSync process now kind context free).2) := by
  by_cases hworker : store.taskIdentity = some context.identity
  · by_cases hconnection : context.connection.isSome ∧ store.connectionIdentity ≠ context.connection
    · exact .inl (by rw [queueSyncCommand, if_neg (not_not.2 hworker), if_pos hconnection])
    · have hsame (hsome : context.connection.isSome) : store.connectionIdentity = context.connection :=
        not_not.1 fun hother => hconnection ⟨hsome, hother⟩
      rw [queueSyncCommand, if_neg (not_not.2 hworker), if_neg hconnection]
      dsimp only
      rcases expireIdleSyncLatch_cases now store with hkept | ⟨hidle, hexpired⟩
      · rw [hkept]
        by_cases hfree : ∀ kind ∈ Kind.all, (store.latches kind).state = .notStarted
        · rw [if_pos hfree]
          exact .inr ⟨store, .free fun kind => hfree kind (Kind.mem_all kind), hworker, hsame, rfl⟩
        · rw [if_neg hfree]
          exact .inl rfl
      · have hfreed : Freed now store { store with latches := fun _ => .released } := .expired hidle
        rw [hexpired, if_pos fun kind _ => hfreed.notStarted kind]
        exact .inr ⟨_, hfreed, hworker, hsame, rfl⟩
  · exact .inl (by rw [queueSyncCommand, if_pos hworker])

theorem latchChange_queueSync (store : Store) (choice : Choice) (posted : Kind)
    (context : DispatchContext) (kind : Kind) :
    LatchChange store (queueSyncCommand process choice.now posted context store).2 choice (.queueSync posted context)
      kind := by
  rcases queueSyncCommand_cases process choice.now posted context store with hkept | ⟨free, hfreed, -, -, haccepted⟩
  · exact .kept (by rw [hkept])
  · have hlatches := acceptSync_latches process choice.now posted context free
    rw [haccepted]
    by_cases hkind : kind = posted
    · subst hkind
      have hothers (other : Kind) (hother : other ≠ kind) :
          ((acceptSync process choice.now kind context free).2.latches other).state = .notStarted := by
        rw [hlatches, Function.update_of_ne hother]
        exact hfreed.notStarted other
      have hlatch : (acceptSync process choice.now kind context free).2.latches kind
          = ⟨.syncing, (acceptSync process choice.now kind context free).1, some free.posts.length⟩ := by
        rw [hlatches, Function.update_self]
      cases hfreed with
      | free hfree => exact .accepted context _ rfl (.inl (hfree kind)) hothers hlatch rfl
      | expired hidle => exact .accepted context _ rfl (.inr hidle) hothers hlatch rfl
    · have hlatch : (acceptSync process choice.now posted context free).2.latches kind = free.latches kind := by
        rw [hlatches, Function.update_of_ne hkind]
      cases hfreed with
      | free hfree => exact .kept hlatch
      | expired hidle => exact .released (.expired posted context rfl hidle) hlatch

variable {choice : Choice}

theorem latchChange_of_dropped {store store' : Store} {command : Command} {kind : Kind}
    (hlatches : store'.latches = (command.drops store).foldl releaseCommand store.latches)
    (hgone : ∀ queued ∈ command.drops store, command = .release queued ∨ store'.queue = []) :
    LatchChange store store' choice command kind := by
  rcases foldl_releaseCommand (command.drops store) store.latches kind with
    hkept | ⟨hreleased, queued, hdropped, hkind, hrunId⟩
  · exact .kept (hlatches ▸ hkept)
  · exact .released (.discarded queued hdropped hkind hrunId (hgone queued hdropped)) (hlatches ▸ hreleased)

theorem forgetConnection_latches (identity : Identity) (store : Store) :
    (forgetConnection identity store).latches = store.latches ∧ (forgetConnection identity store).queue = store.queue := by
  unfold forgetConnection
  split
  · exact ⟨rfl, rfl⟩
  · split_ifs <;> exact ⟨rfl, rfl⟩

theorem startWorker_cases (identity : Identity) (running : Bool) (store : Store) :
    startWorker identity running store = store ∨
      (store.taskIdentity = none ∧ startWorker identity running store = { store with taskIdentity := some identity }) ∨
      startWorker identity running store = { discardPendingCommands store with taskIdentity := some identity } := by
  unfold startWorker
  by_cases hsame : running = true ∧ store.taskIdentity = some identity
  · exact .inl (if_pos hsame)
  · rw [if_neg hsame]
    cases hworker : store.taskIdentity with
    | none => exact .inr (.inl ⟨rfl, rfl⟩)
    | some worker => exact .inr (.inr rfl)

theorem stopWebsocket_cases (endpointId : Option Int) (store : Store) :
    stopWebsocket endpointId store = (false, store) ∨
      ∃ identity, store.taskIdentity = some identity ∧
        stopWebsocket endpointId store
          = (true, discardPendingCommands (forgetConnection identity { store with taskIdentity := none })) := by
  unfold stopWebsocket
  cases hworker : store.taskIdentity with
  | none => exact .inl rfl
  | some identity =>
    dsimp only
    split_ifs
    · exact .inl rfl
    · exact .inr ⟨identity, rfl, rfl⟩

theorem latchChange (store : Store) (choice : Choice) (command : Command) (kind : Kind) :
    LatchChange store (exec process store choice command).2 choice command kind := by
  cases command
  case queueSync posted context => exact latchChange_queueSync process store choice posted context kind
  case publish frame endpointId =>
    rcases publishBackendMessage_latches choice.now frame endpointId store kind with hkept | ⟨hreleased, hlatch⟩
    · exact .kept hkept
    · exact .released (.terminal frame endpointId rfl hreleased) hlatch
  case failActiveSyncs endpointId =>
    have hlatch := failActiveSyncs_latches choice.now endpointId store kind
    by_cases hsyncing : (store.latches kind).state = .syncing
    · exact .released (.trustLost endpointId rfl hsyncing) (hlatch.trans (if_pos hsyncing))
    · exact .kept (hlatch.trans (if_neg hsyncing))
  case downgrade queued endpointId =>
    rcases downgradeQueuedRun_cases choice.now queued endpointId store with
      hkept | ⟨other, runId, hother, hqueued, hsyncing, hrunId, hdowngraded⟩
    · exact .kept (by rw [exec, hkept])
    · by_cases hkind : kind = other
      · subst hkind
        refine .downgraded queued endpointId runId rfl hqueued hother hsyncing hrunId ?_
        rw [exec, hdowngraded]
        exact Function.update_self ..
      · refine .kept ?_
        rw [exec, hdowngraded]
        exact Function.update_of_ne hkind ..
  case release queued =>
    refine latchChange_of_dropped rfl fun dropped hdropped => .inl ?_
    rw [List.mem_singleton.1 hdropped]
  case startWorker identity =>
    rcases startWorker_cases identity choice.running store with hkept | ⟨-, hstarted⟩ | hreplaced
    · exact .kept (by rw [exec, hkept])
    · exact .kept (by rw [exec, hstarted])
    · rw [exec, hreplaced]
      exact latchChange_of_dropped rfl fun _ _ => .inr rfl
  case stop endpointId =>
    rcases stopWebsocket_cases endpointId store with hkept | ⟨identity, -, hstopped⟩
    · exact .kept (by rw [exec, hkept])
    · obtain ⟨hlatches, hqueue⟩ := forgetConnection_latches identity { store with taskIdentity := none }
      rw [exec, hstopped, discardPendingCommands, hlatches, hqueue]
      exact latchChange_of_dropped rfl fun _ _ => .inr rfl
  case connect worker =>
    refine .kept ?_
    rw [exec]
    split_ifs <;> rfl
  case send socket frame queued =>
    refine .kept ?_
    rw [exec]
    split_ifs <;> rfl
  case recordCapability key before supported =>
    refine .kept ?_
    rw [exec, recordCapability]
    split_ifs <;> rfl
  all_goals exact .kept rfl

/-! ### At most one kind -/

/-- At most one kind is latched, and a run id is recorded only for a latched kind. -/
structure LatchesCoherent (latches : Kind → Latch) : Prop where
  one : ∀ first second, (latches first).state = .syncing → (latches second).state = .syncing → first = second
  recorded : ∀ kind, (latches kind).runId.isSome → (latches kind).state = .syncing

theorem LatchChange.recorded {store store' : Store} {command : Command} {kind : Kind}
    (hchange : LatchChange store store' choice command kind) (hcoherent : LatchesCoherent store.latches)
    (hrunId : (store'.latches kind).runId.isSome) : (store'.latches kind).state = .syncing := by
  cases hchange with
  | kept hlatch =>
    rw [hlatch] at hrunId ⊢
    exact hcoherent.recorded kind hrunId
  | accepted context runId hcommand hbefore hothers hlatch hposts => rw [hlatch]
  | released hcause hlatch => simp [hlatch, Latch.released] at hrunId
  | downgraded queued endpointId runId hcommand hqueued hkind hsyncing hmatch hlatch => simp [hlatch] at hrunId

theorem LatchChange.syncing {store store' : Store} {command : Command} {kind : Kind}
    (hchange : LatchChange store store' choice command kind) (hsyncing : (store'.latches kind).state = .syncing) :
    (store.latches kind).state = .syncing ∨ ∀ other, (store'.latches other).state = .syncing → other = kind := by
  cases hchange with
  | kept hlatch => exact .inl (hlatch ▸ hsyncing)
  | downgraded queued endpointId runId hcommand hqueued hkind hbefore hmatch hlatch => exact .inl hbefore
  | accepted context runId hcommand hbefore hothers hlatch hposts =>
    refine .inr fun other hother => not_not.1 fun hne => ?_
    simp [hothers other hne] at hother
  | released hcause hlatch => simp [hlatch, Latch.released] at hsyncing

theorem exec_coherent (store : Store) (choice : Choice) (command : Command)
    (hcoherent : LatchesCoherent store.latches) : LatchesCoherent (exec process store choice command).2.latches where
  one := by
    intro first second hfirst hsecond
    rcases (latchChange process store choice command first).syncing hfirst with hbefore | hposted
    · rcases (latchChange process store choice command second).syncing hsecond with hbefore' | hposted
      · exact hcoherent.one first second hbefore hbefore'
      · exact hposted first hfirst
    · exact (hposted second hsecond).symm
  recorded kind := (latchChange process store choice command kind).recorded hcoherent

theorem coherent_initial : LatchesCoherent Store.initial.latches where
  one _ _ hfirst := by cases hfirst
  recorded _ hrunId := by cases hrunId

abbrev BridgeConfig := Config Store View Command Command.Reply

theorem run_coherent {process : Process} {store : Store} (hcoherent : LatchesCoherent store.latches)
    {moves : List (Move Actor Choice)} {config : BridgeConfig}
    (hrun : (bridge process).run (.initial store) moves = some config) : LatchesCoherent config.store.latches :=
  System.inv_run (fun store => LatchesCoherent store.latches) (exec_coherent process) hcoherent hrun

theorem latches_of_run {process : Process} {moves : List (Move Actor Choice)} {config : BridgeConfig}
    (hrun : (bridge process).run (.initial .initial) moves = some config) :
    (∀ first second, (config.store.latches first).state = .syncing → (config.store.latches second).state = .syncing →
      first = second) ∧
      ∀ kind, (config.store.latches kind).runId.isSome → (config.store.latches kind).state = .syncing :=
  have hcoherent := run_coherent coherent_initial hrun
  ⟨hcoherent.one, hcoherent.recorded⟩

def sampleProcess : Process := ⟨"0123456789abcdef", fun n => String.ofList (List.replicate (n + 8) 'a'), by decide⟩

def calm : Choice := ⟨0, none, false, some "id", true, false, none, true⟩

def postDevices : List (Move Actor Choice) :=
  .start (.post "devices" 1) :: List.replicate 4 (.step 0 calm)

theorem latches_of_postDevices :
    ∃ config, (bridge sampleProcess).run (.initial .initial) postDevices = some config ∧
      (config.store.latches .devices).state = .syncing ∧
      ∀ other, (config.store.latches other).state = .syncing → other = .devices := by
  refine ⟨_, rfl, rfl, ?_⟩
  intro other hother
  exact (@latches_of_run sampleProcess postDevices _ rfl).1 other .devices hother rfl

end Proxbox.WebSocket
