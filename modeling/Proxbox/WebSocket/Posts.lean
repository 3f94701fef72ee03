import Proxbox.WebSocket.Latches
/-!
# Accepted posts and their commands

What a command can do to the store, said once, and what the store and the views then say of the accepted posts:
every command in the queue or in a hand was queued by a post that was accepted for the worker the command names,
every latch is that of a post, and no two posts got one run id.
-/

namespace Proxbox.WebSocket

open Interleaving

/-! ### Effects -/

section Accepting

variable (process : Process) (now : Rat) (kind : Kind) (context : DispatchContext) (store : Store)

def newRunId : Option String := if context.useRunId then some (process.tokens store.drawn) else none

def newCommand : QueuedCommand where
  endpointId := context.identity.1
  identity := context.identity.2
  command := kind.command
  runId := newRunId process context store
  connectionId := context.connection.map Connection.connectionId
  run := store.posts.length

def afterPost (queued : List QueuedCommand) (runId : Option String) (drawn : Nat) : Store :=
  { store with
    lastSyncActivity := now
    queue := store.queue ++ queued
    drawn := drawn
    latches := Function.update store.latches kind ⟨.syncing, runId, some store.posts.length⟩
    posts := store.posts ++ [⟨kind, store.taskIdentity, runId, store.messages.last⟩] }

theorem acceptSync_cases :
    maxMessageQueueSize ≤ store.queue.length ∧
        acceptSync process now kind context store = (none, afterPost now kind store [] none store.drawn) ∨
      store.queue.length < maxMessageQueueSize ∧
        acceptSync process now kind context store
          = (newRunId process context store, afterPost now kind store [newCommand process kind context store]
              (newRunId process context store) (store.drawn + if context.useRunId then 1 else 0)) := by
  by_cases hfull : maxMessageQueueSize ≤ store.queue.length
  · refine .inl ⟨hfull, ?_⟩
    rw [acceptSync, sendMessage, if_pos hfull, afterPost, List.append_nil]
  · refine .inr ⟨Nat.not_le.1 hfull, ?_⟩
    rw [acceptSync, sendMessage, if_neg hfull]
    rfl

end Accepting

/-- What a command can leave behind. -/
inductive Effect (process : Process) (store : Store) (choice : Choice) : Command → Store → Prop where
  | quiet {command : Command} (messages : Messages) (activity : Rat) (latches : Kind → Latch)
      (hlast : store.messages.last ≤ messages.last) :
      Effect process store choice command
        { store with messages := messages, lastSyncActivity := activity, latches := latches }
  | cached {command : Command} (cache : Connection → Option Decision) :
      Effect process store choice command { store with capabilityCache := cache }
  | connected (worker : Identity) :
      Effect process store choice (.connect worker) { store with sockets := store.sockets ++ [worker] }
  | opened (worker : Identity) :
      Effect process store choice (.openSession worker) (openConnectionSession process worker store).2
  | closed (key : Connection) : Effect process store choice (.closeSession key) (closeConnectionSession key store)
  | taken : Effect process store choice .getNowait { store with queue := store.queue.tail }
  | sent (socket : Nat) (frame : String) (queued : QueuedCommand)
      (hwritten : choice.raised.isNone ∨ choice.written = true) :
      Effect process store choice (.send socket frame queued)
        { store with wire := store.wire ++ [⟨socket, frame, queued⟩] }
  | drained {command : Command} (hdrops : command.drops store = store.queue) (task : Option Identity)
      (connection : Option Connection) (cache : Connection → Option Decision) :
      Effect process store choice command
        { discardPendingCommands store with
          taskIdentity := task, connectionIdentity := connection, capabilityCache := cache }
  | started (identity : Identity) (hidle : store.taskIdentity = none) :
      Effect process store choice (.startWorker identity) { store with taskIdentity := some identity }
  | accepted (kind : Kind) (context : DispatchContext) (free : Store) (hfreed : Freed choice.now store free)
      (hworker : store.taskIdentity = some context.identity)
      (hconnection : context.connection.isSome → store.connectionIdentity = context.connection) :
      Effect process store choice (.queueSync kind context) (acceptSync process choice.now kind context free).2

section Effects

variable {process : Process} {store store' : Store} {choice : Choice} {command : Command}

theorem Effect.refl : Effect process store choice command store :=
  .quiet store.messages store.lastSyncActivity store.latches le_rfl

variable (latches : Kind → Latch)

theorem Effect.relatched :
    Effect process store choice command { store with latches := latches } :=
  .quiet store.messages store.lastSyncActivity latches le_rfl

theorem Effect.appended (now : Rat) (message : String) (endpointId : Int) (marks : Bool) :
    Effect process store choice command
      ({ store with latches := latches }.appendMessage now message endpointId marks) :=
  .quiet _ _ latches (Nat.le_succ store.messages.last)

theorem failActiveSyncs_quiet (now : Rat) (endpointId : Int) (store : Store) :
    ∃ messages activity latches, store.messages.last ≤ messages.last ∧
      failActiveSyncsForTrustLoss now endpointId store
        = { store with messages := messages, lastSyncActivity := activity, latches := latches } := by
  unfold failActiveSyncsForTrustLoss
  generalize Kind.all = kinds
  induction kinds generalizing store with
  | nil => exact ⟨store.messages, store.lastSyncActivity, store.latches, le_rfl, rfl⟩
  | cons kind kinds ih =>
    rw [List.foldl_cons]
    obtain ⟨messages, activity, latches, hlast, hfold⟩ := ih (failActiveSync now endpointId store kind)
    rw [hfold]
    unfold failActiveSync at hlast ⊢
    split_ifs at hlast ⊢
    · exact ⟨messages, activity, latches, Nat.le_of_succ_le hlast, rfl⟩
    · exact ⟨messages, activity, latches, hlast, rfl⟩

theorem forgetConnection_eq (identity : Identity) (store : Store) :
    ∃ connection cache,
      forgetConnection identity store = { store with connectionIdentity := connection, capabilityCache := cache } := by
  unfold forgetConnection
  split
  · exact ⟨store.connectionIdentity, store.capabilityCache, rfl⟩
  · split_ifs
    · exact ⟨none, _, rfl⟩
    · exact ⟨store.connectionIdentity, store.capabilityCache, rfl⟩

theorem effect (process : Process) (store : Store) (choice : Choice) (command : Command) :
    Effect process store choice command (exec process store choice command).2 := by
  cases command
  case queueSync kind context =>
    rcases queueSyncCommand_cases process choice.now kind context store with
      hkept | ⟨free, hfreed, hworker, hconnection, haccepted⟩
    · rw [exec, hkept]
      exact .refl
    · rw [exec, haccepted]
      exact .accepted kind context free hfreed hworker hconnection
  case publish frame endpointId => exact .appended _ choice.now frame.text endpointId _
  case record message endpointId => exact .appended store.latches choice.now message endpointId true
  case failActiveSyncs endpointId =>
    obtain ⟨messages, activity, latches, hlast, hfailed⟩ := failActiveSyncs_quiet choice.now endpointId store
    rw [exec, hfailed]
    exact .quiet messages activity latches hlast
  case downgrade queued endpointId =>
    rcases downgradeQueuedRun_cases choice.now queued endpointId store with
      hkept | ⟨kind, runId, -, -, -, -, hdowngraded⟩
    · rw [exec, hkept]
      exact .refl
    · rw [exec, hdowngraded]
      exact .appended _ choice.now (runModeControl runId) endpointId true
  case release queued => exact .relatched _
  case startWorker identity =>
    rcases startWorker_cases identity choice.running store with hkept | ⟨hidle, hstarted⟩ | hreplaced
    · rw [exec, hkept]
      exact .refl
    · rw [exec, hstarted]
      exact .started identity hidle
    · rw [exec, hreplaced]
      exact .drained rfl (some identity) store.connectionIdentity store.capabilityCache
  case stop endpointId =>
    rcases stopWebsocket_cases endpointId store with hkept | ⟨identity, -, hstopped⟩
    · rw [exec, hkept]
      exact .refl
    · obtain ⟨connection, cache, hforgotten⟩ := forgetConnection_eq identity { store with taskIdentity := none }
      rw [exec, hstopped, hforgotten]
      exact .drained rfl none connection cache
  case connect worker =>
    rw [exec]
    split_ifs
    · exact .refl
    · exact .connected worker
  case send socket frame queued =>
    rw [exec]
    split_ifs with hwritten
    · exact .sent socket frame queued hwritten
    · exact .refl
  case recordCapability key before supported =>
    rw [exec, recordCapability]
    split_ifs
    · exact .refl
    · exact .refl
    · exact .cached _
  case markNegative key => exact .cached _
  case openSession worker => exact .opened worker
  case closeSession key => exact .closed key
  case getNowait => exact .taken
  all_goals exact .refl

/-- What is recorded stays recorded. -/
structure Extends (store store' : Store) : Prop where
  posts : store.posts <+: store'.posts
  sockets : store.sockets <+: store'.sockets
  wire : store.wire <+: store'.wire
  drawn : store.drawn ≤ store'.drawn
  last : store.messages.last ≤ store'.messages.last

theorem Extends.refl (store : Store) : Extends store store :=
  ⟨List.prefix_rfl, List.prefix_rfl, List.prefix_rfl, le_rfl, le_rfl⟩

theorem Extends.trans {store₁ store₂ store₃ : Store} (hfirst : Extends store₁ store₂)
    (hsecond : Extends store₂ store₃) : Extends store₁ store₃ :=
  ⟨hfirst.posts.trans hsecond.posts, hfirst.sockets.trans hsecond.sockets, hfirst.wire.trans hsecond.wire,
    hfirst.drawn.trans hsecond.drawn, hfirst.last.trans hsecond.last⟩

theorem extends_acceptSync (process : Process) (now : Rat) (kind : Kind) (context : DispatchContext) (store : Store) :
    Extends store (acceptSync process now kind context store).2 := by
  rcases acceptSync_cases process now kind context store with ⟨-, heq⟩ | ⟨-, heq⟩
  · rw [heq]
    exact ⟨List.prefix_append _ _, List.prefix_rfl, List.prefix_rfl, le_rfl, le_rfl⟩
  · rw [heq]
    exact ⟨List.prefix_append _ _, List.prefix_rfl, List.prefix_rfl, Nat.le_add_right _ _, le_rfl⟩

theorem Effect.extends (heffect : Effect process store choice command store') : Extends store store' := by
  have hrefl := Extends.refl store
  cases heffect with
  | quiet messages activity latches hlast => exact { hrefl with last := hlast }
  | connected worker => exact { hrefl with sockets := List.prefix_append _ _ }
  | opened worker => exact { hrefl with drawn := Nat.le_succ _ }
  | sent socket frame queued hwritten => exact { hrefl with wire := List.prefix_append _ _ }
  | accepted kind context free hfreed hworker hconnection =>
    have hfree := extends_acceptSync process choice.now kind context free
    cases hfreed with
    | free hfree' => exact hfree
    | expired hidle => exact ⟨hfree.posts, hfree.sockets, hfree.wire, hfree.drawn, hfree.last⟩
  | cached | closed | taken | drained | started => exact { hrefl with }

end Effects

/-! ### What a thread learns -/

/-- What a command that the view allows can leave in it. -/
inductive Learned (process : Process) (store : Store) (choice : Choice) (view : View) : Command → View → Prop where
  | kept {command : Command} {view' : View} (hhand : view'.hand = view.hand) (hsent : view'.sent = view.sent)
      (hdowngraded : view'.downgraded = view.downgraded) (hsocket : view'.socket = view.socket)
      (hsession : view'.session = view.session) :
      Learned process store choice view command view'
  | interrupted {command : Command} (hawaits : command.awaits = true) (hraised : choice.raised ≠ none) :
      Learned process store choice view command view.interrupt
  | refused (worker : Identity) : Learned process store choice view (.connect worker) { view with socket := none }
  | connected (worker : Identity)
      (hsockets : (exec process store choice (.connect worker)).2.sockets = store.sockets ++ [worker]) :
      Learned process store choice view (.connect worker) { view with socket := some (store.sockets.length, worker) }
  | opened (worker : Identity) :
      Learned process store choice view (.openSession worker)
        { view with session := some ⟨worker.1, worker.2, process.tokens store.drawn⟩ }
  | taken (queued : QueuedCommand) (rest : List QueuedCommand) (hqueue : store.queue = queued :: rest)
      (hhand : view.hand = none) :
      Learned process store choice view .getNowait
        { view with hand := some queued, downgraded := false, confirmed := none, sent := none }
  | failed (endpointId : Int) :
      Learned process store choice view (.failActiveSyncs endpointId) { view with hand := none, sent := none }
  | dropped (queued : QueuedCommand) (hhand : view.hand = some queued) (hfresh : view.downgraded = false) :
      Learned process store choice view (.release queued) { view with hand := none }
  | sent (socket : Nat) (frame : String) (queued : QueuedCommand) (hhand : view.hand = some queued)
      (hraised : choice.raised = none) :
      Learned process store choice view (.send socket frame queued) { view with hand := none, sent := some queued }
  | marked (queued : QueuedCommand) (endpointId : Int) (hhand : view.hand = some queued) :
      Learned process store choice view (.downgrade queued endpointId) { view with downgraded := true }
  /-- A command that was sent in an envelope is in hand once more. -/
  | again (queued : QueuedCommand) (endpointId : Int) (hhand : view.hand = none) (hsent : view.sent = some queued)
      (hdowngraded : (downgradeQueuedRun choice.now queued endpointId store).1 = true) :
      Learned process store choice view (.downgrade queued endpointId)
        { view with hand := some queued, downgraded := true, sent := none }

variable {α : Type}

theorem Choice.raised_of_awaited {choice : Choice} {value value' : α}
    (hawaited : choice.awaited value = .ok value') : choice.raised = none ∧ value = value' := by
  unfold Choice.awaited at hawaited
  split at hawaited
  · cases hawaited
  · next hraised => exact ⟨hraised, Except.ok.inj hawaited⟩

variable {raised : Interrupt}

theorem Choice.ne_none_of_awaited {choice : Choice} {value : α}
    (hawaited : choice.awaited value = .error raised) : choice.raised ≠ none := by
  unfold Choice.awaited at hawaited
  split at hawaited
  · next hraised => simp [hraised]
  · cases hawaited

theorem awaits_of_error {process : Process} {store : Store} {choice : Choice} {command : Command}
    (hreply : (exec process store choice command).1 = .error raised) :
    command.awaits = true ∧ choice.raised ≠ none := by
  cases command
  case connect worker =>
    rw [exec] at hreply
    split_ifs at hreply
    exact ⟨rfl, Choice.ne_none_of_awaited hreply⟩
  case loadCredentials => exact ⟨rfl, Choice.ne_none_of_awaited hreply⟩
  case probeBackend => exact ⟨rfl, Choice.ne_none_of_awaited hreply⟩
  case sendKey => exact ⟨rfl, Choice.ne_none_of_awaited hreply⟩
  case send => exact ⟨rfl, Choice.ne_none_of_awaited hreply⟩
  case receive => exact ⟨rfl, Choice.ne_none_of_awaited hreply⟩
  case sleep => exact ⟨rfl, Choice.ne_none_of_awaited hreply⟩
  all_goals cases hreply

theorem learned (process : Process) (store : Store) (choice : Choice) {view : View} {command : Command}
    (hallows : view.allows command) :
    Learned process store choice view command (view.next command (exec process store choice command).1) := by
  cases hreply : (exec process store choice command).1 with
  | error raised =>
    obtain ⟨hawaits, hraised⟩ := awaits_of_error hreply
    exact .interrupted hawaits hraised
  | ok value =>
    cases command
    case getNowait =>
      obtain rfl : store.queue.head? = value := Except.ok.inj hreply
      cases hqueue : store.queue with
      | nil => exact .kept rfl rfl rfl rfl rfl
      | cons queued rest => exact .taken queued rest hqueue hallows
    case downgrade queued endpointId =>
      obtain rfl : (downgradeQueuedRun choice.now queued endpointId store).1 = value := Except.ok.inj hreply
      rcases hallows with hhand | ⟨hhand, hsent⟩
      · rw [View.next, View.learn_downgrade_of_hand hhand]
        exact .marked queued endpointId hhand
      · rw [View.next, View.learn_downgrade_of_idle hhand]
        split_ifs with hdowngraded
        · exact .again queued endpointId hhand hsent hdowngraded
        · exact .kept rfl rfl rfl rfl rfl
    case send socket frame queued =>
      exact .sent socket frame queued hallows.1 (Choice.raised_of_awaited hreply).1
    case connect worker =>
      by_cases hrefused : choice.raised.isSome ∨ choice.redirected = true
      · rw [exec, if_pos hrefused] at hreply
        obtain rfl := (Choice.raised_of_awaited hreply).2
        exact .refused worker
      · have hexec := hreply
        rw [exec, if_neg hrefused] at hexec
        obtain rfl := Except.ok.inj hexec
        exact .connected worker (by rw [exec, if_neg hrefused])
    case openSession worker =>
      obtain rfl : process.tokens store.drawn = value := Except.ok.inj hreply
      exact .opened worker
    case release queued => exact .dropped queued hallows.1 hallows.2
    case failActiveSyncs endpointId => exact .failed endpointId
    all_goals exact .kept rfl rfl rfl rfl rfl

/-! ### Where commands and latches come from -/

/-- No token was drawn twice so far. -/
def TokensDistinct (process : Process) (store : Store) : Prop :=
  ∀ first < store.drawn, ∀ second < store.drawn, process.tokens first = process.tokens second → first = second

theorem TokensDistinct.of_extends {process : Process} {store store' : Store} (hdistinct : TokensDistinct process store')
    (hextends : Extends store store') : TokensDistinct process store := by
  intro first hfirst second hsecond
  exact hdistinct first (hfirst.trans_le hextends.drawn) second (hsecond.trans_le hextends.drawn)

/-- The command is that of an accepted post, for the worker there was at that moment. -/
def Recorded (store : Store) (queued : QueuedCommand) : Prop :=
  ∃ post, store.posts[queued.run]? = some post ∧ queued.command = post.kind.command ∧
    post.worker = some queued.worker ∧ post.runId = queued.runId

def LatchRecorded (store : Store) (kind : Kind) (run : Nat) : Prop :=
  ∃ post, store.posts[run]? = some post ∧ post.kind = kind ∧
    ∀ runId, (store.latches kind).runId = some runId → post.runId = some runId

structure Provenance (process : Process) (store : Store) : Prop where
  queue : ∀ queued ∈ store.queue, Recorded store queued
  syncing : ∀ kind, (store.latches kind).state = .syncing ↔ (store.latches kind).run.isSome
  latch : ∀ kind run, (store.latches kind).run = some run → LatchRecorded store kind run
  token : ∀ post ∈ store.posts, ∀ runId, post.runId = some runId → ∃ n < store.drawn, runId = process.tokens n
  /-- Later posts got later tokens. -/
  distinct : TokensDistinct process store →
    store.posts.Pairwise fun earlier later => earlier.runId.isSome → earlier.runId ≠ later.runId

/-- What a thread has in hand or has sent is recorded, and so are its connection and its session. -/
structure Knows (process : Process) (store : Store) (view : View) : Prop where
  hand : ∀ queued, view.hand = some queued → Recorded store queued
  sent : ∀ queued, view.sent = some queued → Recorded store queued
  socket : ∀ socket worker, view.socket = some (socket, worker) → store.sockets[socket]? = some worker
  session : ∀ key, view.session = some key → ∃ n < store.drawn, key.connectionId = process.tokens n

section Keeping

variable {process : Process} {store store' : Store} {choice : Choice} {command : Command} {queued : QueuedCommand}

theorem getElem?_of_extended {l l' : List α} {index : Nat} {a : α} (hextended : l <+: l')
    (hindex : l[index]? = some a) : l'[index]? = some a := by
  obtain ⟨rest, rfl⟩ := hextended
  rw [List.getElem?_append_left (List.getElem?_eq_some_iff.1 hindex).1, hindex]

theorem Recorded.extend (hrecorded : Recorded store queued) (hextends : Extends store store') :
    Recorded store' queued := by
  obtain ⟨post, hpost, hrest⟩ := hrecorded
  exact ⟨post, getElem?_of_extended hextends.posts hpost, hrest⟩

theorem Knows.extend {view : View} (hknows : Knows process store view) (hextends : Extends store store') :
    Knows process store' view where
  hand queued hhand := (hknows.hand queued hhand).extend hextends
  sent queued hsent := (hknows.sent queued hsent).extend hextends
  socket socket worker hsocket := getElem?_of_extended hextends.sockets (hknows.socket socket worker hsocket)
  session key hsession := by
    obtain ⟨n, hdrawn, htoken⟩ := hknows.session key hsession
    exact ⟨n, hdrawn.trans_le hextends.drawn, htoken⟩

theorem Freed.records {now : Rat} {free : Store} (hfreed : Freed now store free) :
    free = { store with latches := free.latches } := by
  cases hfreed <;> rfl

theorem newCommand_recorded {kind : Kind} {context : DispatchContext} {now : Rat}
    (hworker : store.taskIdentity = some context.identity) (drawn : Nat) :
    Recorded (afterPost now kind store [newCommand process kind context store] (newRunId process context store) drawn)
      (newCommand process kind context store) :=
  ⟨_, List.getElem?_concat_length, rfl, hworker, rfl⟩

theorem Effect.queue_recorded (heffect : Effect process store choice command store')
    (hqueue : ∀ queued ∈ store.queue, Recorded store queued) : ∀ queued ∈ store'.queue, Recorded store' queued := by
  have hextends := heffect.extends
  intro queued hmem
  have hkept (hmem : queued ∈ store.queue) : Recorded store' queued := (hqueue queued hmem).extend hextends
  cases heffect with
  | taken => exact hkept (List.mem_of_mem_tail hmem)
  | drained => cases hmem
  | accepted kind context free hfreed hworker hconnection =>
    have hfree := hfreed.records
    have hstore : store.queue = free.queue ∧ store.taskIdentity = free.taskIdentity := by
      rw [hfree]
      exact ⟨rfl, rfl⟩
    rw [hstore.1] at hkept
    rw [hstore.2] at hworker
    rcases acceptSync_cases process choice.now kind context free with ⟨-, heq⟩ | ⟨-, heq⟩
    · rw [heq] at hmem
      rw [show (afterPost choice.now kind free [] none free.drawn).queue = free.queue from List.append_nil _] at hmem
      exact hkept hmem
    · rw [heq] at hmem hkept ⊢
      rcases List.mem_append.1 hmem with hmem | hmem
      · exact hkept hmem
      · obtain rfl := List.mem_singleton.1 hmem
        exact newCommand_recorded hworker _
  | quiet | cached | connected | opened | closed | sent | started => exact hkept hmem

theorem Provenance.latch_kept (hprovenance : Provenance process store)
    {kind : Kind} {run : Nat} (hextends : Extends store store') (hrun : (store.latches kind).run = some run)
    (hrunId : ∀ runId, (store'.latches kind).runId = some runId → (store.latches kind).runId = some runId) :
    LatchRecorded store' kind run := by
  obtain ⟨post, hpost, hkind, hmatches⟩ := hprovenance.latch kind run hrun
  exact ⟨post, getElem?_of_extended hextends.posts hpost, hkind, fun runId hlatch => hmatches runId (hrunId runId hlatch)⟩

theorem Provenance.syncing_exec (hprovenance : Provenance process store) (choice : Choice) (command : Command)
    (kind : Kind) :
    ((exec process store choice command).2.latches kind).state = .syncing
      ↔ ((exec process store choice command).2.latches kind).run.isSome := by
  have hbefore := hprovenance.syncing kind
  cases latchChange process store choice command kind with
  | kept hlatch => rw [hlatch, hbefore]
  | downgraded queued endpointId runId hcommand hqueued hkind hsyncing hmatch hlatch => rw [hlatch, ← hbefore]
  | accepted context runId hcommand hfree hothers hlatch hposts => simp [hlatch]
  | released hcause hlatch => simp [hlatch, Latch.released]

theorem Provenance.latch_exec (hprovenance : Provenance process store) (choice : Choice) (command : Command)
    (kind : Kind) (run : Nat) (hrun : ((exec process store choice command).2.latches kind).run = some run) :
    LatchRecorded (exec process store choice command).2 kind run := by
  have hextends := (effect process store choice command).extends
  cases latchChange process store choice command kind with
  | kept hlatch =>
    rw [hlatch] at hrun
    exact hprovenance.latch_kept hextends hrun fun runId hrunId => hlatch ▸ hrunId
  | downgraded queued endpointId runId hcommand hqueued hkind hsyncing hmatch hlatch =>
    rw [hlatch] at hrun
    exact hprovenance.latch_kept hextends hrun fun runId hrunId => by simp [hlatch] at hrunId
  | accepted context runId hcommand hfree hothers hlatch hposts =>
    rw [hlatch] at hrun
    obtain rfl := Option.some.inj hrun
    refine ⟨_, by rw [hposts, List.getElem?_concat_length], rfl, fun runId' hrunId => ?_⟩
    rw [hlatch] at hrunId
    exact hrunId
  | released hcause hlatch => simp [hlatch, Latch.released] at hrun

theorem Effect.posts_cases (heffect : Effect process store choice command store') :
    store'.posts = store.posts ∨
      ∃ post, store'.posts = store.posts ++ [post] ∧
        (post.runId = none ∨ post.runId = some (process.tokens store.drawn) ∧ store.drawn < store'.drawn) := by
  cases heffect with
  | accepted kind context free hfreed hworker hconnection =>
    have hposts : store.posts = free.posts ∧ store.drawn = free.drawn := by
      rw [hfreed.records]
      exact ⟨rfl, rfl⟩
    rw [hposts.1, hposts.2]
    rcases acceptSync_cases process choice.now kind context free with ⟨-, heq⟩ | ⟨-, heq⟩
    · rw [heq]
      exact .inr ⟨_, rfl, .inl rfl⟩
    · rw [heq]
      refine .inr ⟨_, rfl, ?_⟩
      by_cases huse : context.useRunId = true
      · exact .inr ⟨if_pos huse, by simp [afterPost, huse]⟩
      · exact .inl (if_neg huse)
  | quiet | cached | connected | opened | closed | taken | sent | drained | started => exact .inl rfl

theorem Provenance.token_effect (hprovenance : Provenance process store)
    (heffect : Effect process store choice command store') :
    ∀ post ∈ store'.posts, ∀ runId, post.runId = some runId → ∃ n < store'.drawn, runId = process.tokens n := by
  intro post hmem runId hrunId
  have hkept (hmem : post ∈ store.posts) : ∃ n < store'.drawn, runId = process.tokens n := by
    obtain ⟨n, hdrawn, htoken⟩ := hprovenance.token post hmem runId hrunId
    exact ⟨n, hdrawn.trans_le heffect.extends.drawn, htoken⟩
  rcases heffect.posts_cases with hposts | ⟨new, hposts, hnew⟩
  · exact hkept (hposts ▸ hmem)
  · rcases List.mem_append.1 (hposts ▸ hmem) with hmem | hmem
    · exact hkept hmem
    · obtain rfl := List.mem_singleton.1 hmem
      rcases hnew with hnone | ⟨htoken, hdrawn⟩
      · rw [hnone] at hrunId
        cases hrunId
      · exact ⟨store.drawn, hdrawn, Option.some.inj (hrunId.symm.trans htoken)⟩

theorem Provenance.distinct_effect (hprovenance : Provenance process store)
    (heffect : Effect process store choice command store') (hdistinct : TokensDistinct process store') :
    store'.posts.Pairwise fun earlier later => earlier.runId.isSome → earlier.runId ≠ later.runId := by
  have hbefore := hprovenance.distinct (hdistinct.of_extends heffect.extends)
  rcases heffect.posts_cases with hposts | ⟨new, hposts, hnew⟩
  · rw [hposts]
    exact hbefore
  · rw [hposts]
    refine List.pairwise_append.2 ⟨hbefore, List.pairwise_singleton _ _, ?_⟩
    intro earlier hearlier later hlater hsome hsame
    obtain rfl := List.mem_singleton.1 hlater
    obtain ⟨runId, hrunId⟩ := Option.isSome_iff_exists.1 hsome
    obtain ⟨n, hdrawn, htoken⟩ := hprovenance.token earlier hearlier runId hrunId
    rcases hnew with hnone | ⟨hnew, hmore⟩
    · rw [hsame, hnone] at hsome
      cases hsome
    · -- The new token has a number that no earlier post can have.
      have hnumber : n = store.drawn := by
        apply hdistinct n (hdrawn.trans hmore) store.drawn hmore
        rw [← htoken]
        exact Option.some.inj (hrunId.symm.trans (hsame.trans hnew))
      omega

theorem Provenance.exec (hprovenance : Provenance process store) (choice : Choice) (command : Command) :
    Provenance process (exec process store choice command).2 where
  queue := (effect process store choice command).queue_recorded hprovenance.queue
  syncing := hprovenance.syncing_exec choice command
  latch := hprovenance.latch_exec choice command
  token := hprovenance.token_effect (effect process store choice command)
  distinct := hprovenance.distinct_effect (effect process store choice command)

theorem provenance_initial (process : Process) : Provenance process .initial where
  queue _ hmem := by cases hmem
  syncing _ := by simp [Store.initial, Latch.released]
  latch _ _ hrun := by cases hrun
  token _ hmem := by cases hmem
  distinct _ := .nil

theorem Provenance.index_unique (hprovenance : Provenance process store)
    (hdistinct : TokensDistinct process store) {first second : Nat} {post post' : Post}
    (hfirst : store.posts[first]? = some post) (hsecond : store.posts[second]? = some post')
    (hsome : post.runId.isSome) (hsame : post.runId = post'.runId) : first = second := by
  have hpairwise := List.pairwise_iff_getElem.1 (hprovenance.distinct hdistinct)
  obtain ⟨hlt, hget⟩ := List.getElem?_eq_some_iff.1 hfirst
  obtain ⟨hlt', hget'⟩ := List.getElem?_eq_some_iff.1 hsecond
  -- Of two different posts the later one has another run id.
  rcases Nat.lt_trichotomy first second with hless | hequal | hless
  · have hother := hpairwise first second hlt hlt' hless
    rw [hget, hget'] at hother
    exact absurd hsame (hother hsome)
  · exact hequal
  · have hother := hpairwise second first hlt' hlt hless
    rw [hget, hget'] at hother
    exact absurd hsame.symm (hother (hsame ▸ hsome))

theorem Provenance.run_eq_of_runId (hprovenance : Provenance process store) {kind : Kind} {runId : String}
    (hrecorded : Recorded store queued) (hqueued : queued.runId = some runId)
    (hsyncing : (store.latches kind).state = .syncing) (hlatch : (store.latches kind).runId = some runId)
    (hdistinct : TokensDistinct process store) : (store.latches kind).run = some queued.run := by
  obtain ⟨run, hrun⟩ := Option.isSome_iff_exists.1 ((hprovenance.syncing kind).1 hsyncing)
  obtain ⟨held, hheld, -, hmatches⟩ := hprovenance.latch kind run hrun
  obtain ⟨post, hpost, -, -, hposted⟩ := hrecorded
  have hheldId : held.runId = some runId := hmatches runId hlatch
  have hpostId : post.runId = some runId := hposted.trans hqueued
  have hsome : held.runId.isSome := by rw [hheldId, Option.isSome_some]
  rw [hrun, hprovenance.index_unique hdistinct hheld hpost hsome (hheldId.trans hpostId.symm)]

/-- What a thread learns from a command it may issue is recorded too. -/
theorem Knows.next {view : View} (hknows : Knows process store view) (hprovenance : Provenance process store)
    (choice : Choice) (hallows : view.allows command) :
    Knows process (exec process store choice command).2 (view.next command (exec process store choice command).1) := by
  have hextends := (effect process store choice command).extends
  obtain ⟨hhand, hsent, hsocket, hsession⟩ := hknows.extend hextends
  have hnone (queued : QueuedCommand) (hsome : none = some queued) :
      Recorded (exec process store choice command).2 queued := by cases hsome
  have hlearned := learned process store choice hallows
  generalize view.next command (exec process store choice command).1 = view' at hlearned ⊢
  cases hlearned with
  | kept hhand' hsent' hdowngraded' hsocket' hsession' =>
    exact ⟨hhand' ▸ hhand, hsent' ▸ hsent, hsocket' ▸ hsocket, hsession' ▸ hsession⟩
  | interrupted hawaits hraised => exact ⟨hnone, hnone, hsocket, hsession⟩
  | failed endpointId => exact ⟨hnone, hnone, hsocket, hsession⟩
  | dropped queued hold hfresh => exact ⟨hnone, hsent, hsocket, hsession⟩
  | marked queued endpointId hold => exact ⟨hhand, hsent, hsocket, hsession⟩
  | refused worker => exact ⟨hhand, hsent, fun _ _ hrefused => (Option.some_ne_none _ hrefused.symm).elim, hsession⟩
  | connected worker hsockets =>
    refine ⟨hhand, hsent, fun socket worker' hsame => ?_, hsession⟩
    obtain ⟨rfl, rfl⟩ := Prod.mk.inj (Option.some.inj hsame)
    rw [hsockets, List.getElem?_concat_length]
  | opened worker =>
    refine ⟨hhand, hsent, hsocket, fun key hsame => ?_⟩
    obtain rfl := Option.some.inj hsame
    exact ⟨store.drawn, Nat.lt_succ_self _, rfl⟩
  | taken queued rest hqueue hidle =>
    have hrecorded : Recorded store queued := hprovenance.queue queued (hqueue ▸ List.mem_cons_self)
    refine ⟨fun taken htaken => ?_, hnone, hsocket, hsession⟩
    obtain rfl := Option.some.inj htaken
    exact hrecorded.extend hextends
  | sent socket frame queued hold hraised =>
    refine ⟨hnone, fun sent hsame => ?_, hsocket, hsession⟩
    obtain rfl := Option.some.inj hsame
    exact hhand queued hold
  | again queued endpointId hidle hold hdowngraded =>
    refine ⟨fun again hsame => ?_, hnone, hsocket, hsession⟩
    obtain rfl := Option.some.inj hsame
    exact hsent queued hold

theorem knows_unseen (process : Process) (store : Store) : Knows process store View.unseen where
  hand _ hnone := by cases hnone
  sent _ hnone := by cases hnone
  socket _ _ hnone := by cases hnone
  session _ hnone := by cases hnone

theorem bridge_maintains (process : Process) :
    System.Maintains (bridge process) (fun store (_ : Empty) => store) (fun _ _ _ => True) (fun _ _ => True) View.allows
      (Provenance process) (Knows process) where
  program actor := Program.wp_mono (fun _ _ _ => trivial) (program_issues process actor)
  unseen store _ := knows_unseen process store
  execInv _ choice _ command _ _ hprovenance _ := hprovenance.exec choice command
  own _ choice _ _ hallows _ hprovenance hknows := hknows.next hprovenance choice hallows
  other store choice _ command _ _ _ _ _ hknows := hknows.extend (effect process store choice command).extends
  outsideInv _ change := change.elim
  outside _ change := change.elim

end Keeping

/-! ### Along a run -/

section Runs

variable {process : Process} {moves : List (Move Actor Choice)} {config config' : BridgeConfig}

/-- What is known of every state a run leads to. -/
structure Reached (process : Process) (config : BridgeConfig) : Prop where
  coherent : LatchesCoherent config.store.latches
  provenance : Provenance process config.store
  settled : System.Settled (bridge process) View.allows (fun view => view.hand = none) config
  knows : ∀ thread ∈ config.threads, Knows process config.store thread.view

theorem reached_initial (process : Process) : Reached process (.initial .initial) where
  coherent := coherent_initial
  provenance := provenance_initial process
  settled := System.settled_initial _
  knows _ hmem := by cases hmem

theorem Reached.move (hreached : Reached process config) {move : Move Actor Choice}
    (hmove : (bridge process).move config move = some config') : Reached process config' := by
  have hsound : System.Sound (bridge process) View.allows (Knows process) config := fun thread hmem =>
    ⟨Program.wp_mono (fun _ _ _ => trivial) (hreached.settled thread hmem), hreached.knows thread hmem⟩
  obtain ⟨hprovenance, hsound⟩ := (bridge_maintains process).sound_move hreached.provenance hsound
    (fun _ _ => trivial) hmove
  refine ⟨?_, hprovenance, hreached.settled.move (program_issues process) hmove, fun thread hmem => (hsound thread hmem).2⟩
  obtain ⟨actor, rfl⟩ | ⟨index, choice, view, command, resume, -, -, rfl⟩ := System.move_cases_unguarded hmove
  · exact hreached.coherent
  · exact exec_coherent process config.store choice command hreached.coherent

theorem reached_run (hrun : (bridge process).run (.initial .initial) moves = some config) : Reached process config :=
  System.keeps_run (Reached process) (fun _ _ _ hmove hreached => hreached.move hmove) (reached_initial process) hrun

theorem extends_run (hrun : (bridge process).run config moves = some config') :
    Extends config.store config'.store :=
  System.rel_run Extends Extends.refl (fun _ _ _ => Extends.trans)
    (fun store choice command => (effect process store choice command).extends) hrun

end Runs

end Proxbox.WebSocket
