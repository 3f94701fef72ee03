import Proxbox.WebSocket.Releases
/-!
# Commands on their way to the backend

A command is sent only over a connection of the worker it was posted to, after the trust of that worker was
confirmed with the command in hand, and it exists once. While it waits, an expiry, a terminal or a trust loss
may take its latch, and a full queue or an interrupted relay may lose it under its latch.
-/

namespace Proxbox.WebSocket

open Python Interleaving

/-! ### Binding -/

def Command.transmission : Command → Option Transmission
  | .send socket frame queued => some ⟨socket, frame, queued⟩
  | _ => none

theorem eq_send_of_transmission {command : Command} {sent : Transmission} (hsend : sent ∈ command.transmission) :
    command = .send sent.socket sent.frame sent.queued := by
  cases command
  case send socket frame queued =>
    obtain rfl := Option.some.inj hsend
    rfl
  all_goals cases hsend

section Binding

variable {process : Process} {moves : List (Move Actor Choice)} {move : Move Actor Choice} {config : BridgeConfig}
  {view : View} {command : Command} {sent : Transmission}

/-- `view.confirmed` is what the last trust check answered since the command was taken off the queue. -/
theorem send_bound (hrun : (bridge process).run (.initial .initial) moves = some config)
    (hissued : (view, command) ∈ System.issued config move) (hsend : sent ∈ command.transmission) :
    (∃ post, config.store.posts[sent.queued.run]? = some post ∧ post.worker = some sent.queued.worker) ∧
      config.store.sockets[sent.socket]? = some sent.queued.worker ∧ view.hand = some sent.queued ∧
      view.confirmed = some sent.queued.worker := by
  obtain rfl := eq_send_of_transmission hsend
  have hreached := reached_run hrun
  obtain ⟨resume, hthread⟩ := System.thread_of_issued hissued
  have hknows := hreached.knows _ hthread
  obtain ⟨hhand, hsocket, hconfirmed, -⟩ := (hreached.settled _ hthread).1
  obtain ⟨post, hpost, -, hworker, -⟩ := hknows.hand _ hhand
  exact ⟨⟨post, hpost, hworker⟩, hknows.socket _ _ hsocket, hhand, hconfirmed⟩

end Binding

def relayToSend : List (Move Actor Choice) := List.replicate 11 (.step 0 calm)

theorem relayToSend_issues :
    (((bridge sampleProcess).run (.initial .initial) (postCorrelated ++ relayToSend)).bind fun config =>
      (System.issued config relayStep).bind fun issued => issued.2.transmission)
      = some ⟨0, envelope "Sync Nodes" "aaaaaaaaa", ⟨1, "id", "Sync Nodes", some "aaaaaaaaa", some "aaaaaaaa", 0⟩⟩ := by
  decide +kernel

theorem send_bound_envelope :
    ∃ config view command, (bridge sampleProcess).run (.initial .initial) (postCorrelated ++ relayToSend) = some config ∧
      (view, command) ∈ System.issued config relayStep ∧ view.confirmed = some (1, "id") := by
  obtain ⟨config, hrun, hsend⟩ := Option.bind_eq_some_iff.1 relayToSend_issues
  obtain ⟨⟨view, command⟩, hissued, hsend⟩ := Option.bind_eq_some_iff.1 hsend
  exact ⟨config, view, command, hrun, hissued, (send_bound hrun hissued hsend).2.2.2⟩

/-! ### Copies -/

/-- How often the command of a post is in hand or was sent last. -/
def held (n : Nat) (view : View) : Nat :=
  (view.hand.toList ++ view.sent.toList).countP fun queued => queued.run = n

/-- How often it is in the queue, or else one if that post is yet to come. -/
def free (n : Nat) (store : Store) : Nat :=
  store.queue.countP (fun queued => queued.run = n) + if store.posts.length ≤ n then 1 else 0

section Copies

variable {process : Process} {store store' : Store} {choice : Choice} {view view' : View} {command : Command} {n : Nat}

theorem Effect.free_le (heffect : Effect process store choice command store') : free n store' ≤ free n store := by
  cases heffect with
  | taken =>
    exact Nat.add_le_add_right (List.tail_sublist store.queue).countP_le _
  | drained => exact Nat.add_le_add_right (Nat.zero_le _) _
  | accepted kind context free' hfreed hworker hconnection =>
    have hfree : free n store = free n free' := by rw [hfreed.records]; rfl
    rw [hfree]
    rcases acceptSync_cases process choice.now kind context free' with ⟨-, heq⟩ | ⟨-, heq⟩
    · rw [heq]
      simp only [free, afterPost, List.append_nil, List.length_append, List.length_singleton]
      split_ifs <;> omega
    · rw [heq]
      simp only [free, afterPost, List.length_append, List.length_singleton, List.countP_append, List.countP_singleton,
        newCommand]
      grind
  | quiet | cached | connected | opened | closed | sent | started => exact le_rfl

theorem copies_exec_le (process : Process) (store : Store) (choice : Choice) (n : Nat) (hallows : view.allows command) :
    held n (view.next command (exec process store choice command).1) + free n (exec process store choice command).2
      ≤ held n view + free n store := by
  have hfree := (effect process store choice command).free_le (n := n)
  have hlearned := learned process store choice hallows
  generalize hview : view.next command (exec process store choice command).1 = view' at hlearned ⊢
  cases hlearned with
  | kept hhand hsent hdowngraded hsocket hsession =>
    have hsame : held n view' = held n view := by rw [held, hhand, hsent]; rfl
    omega
  | taken queued rest hqueue hhand =>
    simp only [exec, free, held, hqueue, hhand] at hfree ⊢
    simp [List.countP_cons]
    omega
  | dropped queued hhand hfresh =>
    simp only [held, hhand] at hfree ⊢
    simp [List.countP_cons]
    omega
  | sent socket frame queued hhand hraised =>
    simp only [held, hhand] at hfree ⊢
    simp [List.countP_cons]
    omega
  | again queued endpointId hhand hsent hdowngraded =>
    simp only [held, hhand, hsent] at hfree ⊢
    simp [List.countP_cons]
    omega
  | interrupted | failed => exact Nat.add_le_add (Nat.zero_le _) hfree
  | refused | connected | opened | marked => exact Nat.add_le_add le_rfl hfree

/-- The command of every post exists at most once. -/
def Unique (config : BridgeConfig) : Prop := ∀ n, System.tokens (held n) (free n) config ≤ 1

theorem unique_initial : Unique (.initial .initial) := fun _ => by simp [System.tokens, Config.initial, free, Store.initial]

theorem Unique.move {config config' : BridgeConfig} (hunique : Unique config) (hreached : Reached process config)
    {move : Move Actor Choice} (hmove : (bridge process).move config move = some config') : Unique config' := by
  intro n
  have hle := hunique n
  obtain ⟨actor, rfl⟩ | ⟨index, choice, view, command, resume, -, hthread, rfl⟩ := System.move_cases_unguarded hmove
  · simpa [System.tokens, bridge, held, View.unseen] using hle
  · have hallows := hreached.settled.allows_issued hthread
    have hcommand := copies_exec_le process config.store choice n hallows
    have hstep := System.tokens_step (held n) (free n) (bridge process) hthread choice
    simp only [bridge] at hstep ⊢
    omega

end Copies

theorem keeps_along_of_distinct {process : Process} {meets : BridgeConfig → Move Actor Choice → Prop}
    {keeps : BridgeConfig → Prop} {config config' : BridgeConfig}
    (hmove : ∀ config move config', (bridge process).move config move = some config' → meets config move →
      keeps config → TokensDistinct process config.store → keeps config')
    (hkeeps : keeps config) {moves : List (Move Actor Choice)} (halong : (bridge process).Along meets config moves)
    (hrun : (bridge process).run config moves = some config') (hdistinct : TokensDistinct process config'.store) :
    keeps config' := by
  refine System.keeps_along (fun config => TokensDistinct process config.store → keeps config) ?_ (fun _ => hkeeps)
    halong hrun hdistinct
  intro config move config' hstep hmeets hkeeps hdistinct
  have hextends : Extends config.store config'.store :=
    extends_run (show (bridge process).run config [move] = some config' by rw [System.run, hstep]; rfl)
  have hbefore := hdistinct.of_extends hextends
  exact hmove config move config' hstep hmeets (hkeeps hbefore) hbefore

/-! ### Waiting commands and their latches -/

/-- The commands that are in the queue or in a hand. -/
def waiting (config : BridgeConfig) : List QueuedCommand :=
  config.store.queue ++ config.threads.filterMap fun thread => thread.view.hand

/-- The run the command was queued for holds the latch of its kind. -/
def HoldsLatch (store : Store) (queued : QueuedCommand) : Prop :=
  ∃ kind ∈ Kind.all, commandToKind queued.command = some kind ∧ (store.latches kind).state = .syncing ∧
    (store.latches kind).run = some queued.run

instance (store : Store) (queued : QueuedCommand) : Decidable (HoldsLatch store queued) :=
  inferInstanceAs (Decidable (∃ kind ∈ Kind.all, _))

/-- No section that throws no command away releases the latch of a waiting command. -/
def sparesCommand (store : Store) (choice : Choice) (view : View) (queued : QueuedCommand) : Command → Bool
  | .queueSync _ _ => choice.now - store.lastSyncActivity < syncLatchIdleTimeout
  | .publish frame _ =>
    protocolPayloadIsMalformed frame.payload ||
      !(buttonsReleasedBy store.latches frame.payload).any fun kind => commandToKind queued.command = some kind
  | .failActiveSyncs _ => view.hand = some queued
  | _ => true

def SparesWaiting (config : BridgeConfig) : Move Actor Choice → Prop
  | .start _ => True
  | .step index choice =>
    ∀ issued ∈ System.issued config (.step index choice : Move Actor Choice), ∀ queued ∈ waiting config,
      sparesCommand config.store choice issued.1 queued issued.2 = true

instance (config : BridgeConfig) : (move : Move Actor Choice) → Decidable (SparesWaiting config move)
  | .start _ => .isTrue trivial
  | .step index choice =>
    inferInstanceAs (Decidable (∀ issued ∈ System.issued config (.step index choice : Move Actor Choice),
      ∀ queued ∈ waiting config, _))

section Waiting

variable {process : Process} {config config' : BridgeConfig} {queued other : QueuedCommand} {index : Nat}
  {choice : Choice} {view : View} {command : Command} {resume : command.Reply → Program Command Command.Reply Unit}

theorem mem_waiting : queued ∈ waiting config ↔
    queued ∈ config.store.queue ∨ ∃ thread ∈ config.threads, thread.view.hand = some queued := by
  simp [waiting]

theorem one_le_free {store : Store} (hmem : queued ∈ store.queue) : 1 ≤ free queued.run store := by
  have hcount : 0 < store.queue.countP fun other => other.run = queued.run :=
    List.countP_pos_iff.2 ⟨queued, hmem, decide_eq_true rfl⟩
  simp only [free]
  omega

theorem one_le_held (hview : view.hand = some queued ∨ view.sent = some queued) : 1 ≤ held queued.run view := by
  have hmem : queued ∈ view.hand.toList ++ view.sent.toList := by
    rcases hview with hhand | hsent
    · simp [hhand]
    · simp [hsent]
  exact List.countP_pos_iff.2 ⟨queued, hmem, decide_eq_true rfl⟩

theorem one_le_tokens (hwaiting : queued ∈ waiting config) :
    1 ≤ System.tokens (held queued.run) (free queued.run) config := by
  rcases mem_waiting.1 hwaiting with hqueue | ⟨thread, hmem, hhand⟩
  · exact (one_le_free hqueue).trans (Nat.le_add_left _ _)
  · have hheld := one_le_held (.inl hhand)
    have hle := System.le_tokens (held queued.run) (free queued.run) hmem
    omega

@[simp] theorem waiting_start (program : Program Command Command.Reply Unit) :
    waiting ⟨config.store, config.threads ++ [⟨View.unseen, program⟩]⟩ = waiting config := by
  simp [waiting, View.unseen]

theorem waiting_cases {store' : Store} {view' : View} {program : Program Command Command.Reply Unit}
    (hwaiting : queued ∈ waiting ⟨store', config.threads.set index ⟨view', program⟩⟩) :
    queued ∈ store'.queue ∨ view'.hand = some queued ∨ ∃ thread ∈ config.threads, thread.view.hand = some queued := by
  rcases mem_waiting.1 hwaiting with hqueue | ⟨thread, hmem, hhand⟩
  · exact .inl hqueue
  · rcases List.mem_or_eq_of_mem_set hmem with hmem | rfl
    · exact .inr (.inr ⟨thread, hmem, hhand⟩)
    · exact .inr (.inl hhand)

theorem holdsLatch_newCommand (now : Rat) (kind : Kind) (context : DispatchContext) (store : Store) (drawn : Nat) :
    HoldsLatch (afterPost now kind store [newCommand process kind context store] (newRunId process context store) drawn)
      (newCommand process kind context store) := by
  have hlatch (queue : List QueuedCommand) (runId : Option String) :
      (afterPost now kind store queue runId drawn).latches kind = ⟨.syncing, runId, some store.posts.length⟩ :=
    Function.update_self ..
  refine ⟨kind, Kind.mem_all kind, commandToKind_command kind, ?_⟩
  rw [hlatch]
  exact ⟨rfl, rfl⟩

theorem Effect.mem_queue_cases {store store' : Store} (heffect : Effect process store choice command store')
    (hmem : queued ∈ store'.queue) :
    queued ∈ store.queue ∨ (HoldsLatch store' queued ∧ queued.run = store.posts.length) := by
  cases heffect with
  | taken => exact .inl (List.mem_of_mem_tail hmem)
  | drained => cases hmem
  | accepted kind context free hfreed hworker hconnection =>
    have hqueue : store.queue = free.queue ∧ store.posts = free.posts := by
      rw [hfreed.records]
      exact ⟨rfl, rfl⟩
    rw [hqueue.1, hqueue.2]
    rcases acceptSync_cases process choice.now kind context free with ⟨-, heq⟩ | ⟨-, heq⟩
    · rw [heq] at hmem
      simp only [afterPost, List.append_nil] at hmem
      exact .inl hmem
    · rw [heq] at hmem ⊢
      rcases List.mem_append.1 hmem with hmem | hmem
      · exact .inl hmem
      · obtain rfl := List.mem_singleton.1 hmem
        exact .inr ⟨holdsLatch_newCommand choice.now kind context free _, rfl⟩
  | quiet | cached | connected | opened | closed | sent | started => exact .inl hmem

theorem holdsLatch_of_downgraded {store : Store} {endpointId : Int} (hprovenance : Provenance process store)
    (hdistinct : TokensDistinct process store) (hrecorded : Recorded store queued)
    (hdowngraded : (downgradeQueuedRun choice.now queued endpointId store).1 = true) :
    HoldsLatch (downgradeQueuedRun choice.now queued endpointId store).2 queued := by
  rcases downgradeQueuedRun_cases choice.now queued endpointId store with
    hkept | ⟨kind, runId, hkind, hqueued, hsyncing, hrunId, heq⟩
  · rw [hkept] at hdowngraded
    cases hdowngraded
  · have hrun := hprovenance.run_eq_of_runId hrecorded hqueued hsyncing hrunId hdistinct
    refine ⟨kind, Kind.mem_all kind, hkind, ?_⟩
    simp only [heq, Store.appendMessage, Store.setLatch, Function.update_self]
    exact ⟨hsyncing, hrun⟩

theorem hand_cases {store : Store} (hprovenance : Provenance process store)
    (hdistinct : TokensDistinct process store) (hknows : Knows process store view)
    (hallows : view.allows command)
    (hhand : (view.next command (exec process store choice command).1).hand = some queued) :
    view.hand = some queued ∨ queued ∈ store.queue ∨ HoldsLatch (exec process store choice command).2 queued := by
  have hlearned := learned process store choice hallows
  generalize view.next command (exec process store choice command).1 = view' at hlearned hhand
  cases hlearned with
  | kept hkept hsent hdowngraded hsocket hsession => exact .inl (hkept ▸ hhand)
  | taken taken rest hqueue hidle =>
    obtain rfl := Option.some.inj hhand
    exact .inr (.inl (hqueue ▸ List.mem_cons_self))
  | again again endpointId hidle hsent hdowngraded =>
    obtain rfl := Option.some.inj hhand
    exact .inr (.inr (holdsLatch_of_downgraded hprovenance hdistinct (hknows.sent _ hsent) hdowngraded))
  | refused | connected | opened | marked => exact .inl hhand
  | interrupted | failed | dropped | sent => cases hhand

theorem free_lt_of_drained {store store' : Store} (hextends : Extends store store') (hempty : store'.queue = [])
    (hmem : other ∈ store.queue) : free other.run store' < free other.run store := by
  have hcount : 0 < store.queue.countP fun queued => queued.run = other.run :=
    List.countP_pos_iff.2 ⟨other, hmem, decide_eq_true rfl⟩
  have hlength := hextends.posts.length_le
  simp only [free, hempty, List.countP_nil]
  split_ifs <;> omega

theorem copies_dropped_lt {process : Process} {store : Store} {choice : Choice} (hallows : view.allows command)
    (hdropped : other ∈ command.drops store)
    (hgone : command = .release other ∨ (exec process store choice command).2.queue = []) :
    held other.run (view.next command (exec process store choice command).1)
        + free other.run (exec process store choice command).2 < held other.run view + free other.run store := by
  have heffect := effect process store choice command
  cases command
  case release released =>
    obtain rfl := List.mem_singleton.1 hdropped
    have hhand : held other.run { view with hand := none } < held other.run view := by
      simp [held, hallows.1]
    exact Nat.add_lt_add_of_lt_of_le hhand heffect.free_le
  case startWorker identity =>
    have hempty := hgone.resolve_left (by simp)
    exact Nat.add_lt_add_left (free_lt_of_drained heffect.extends hempty hdropped) _
  case stop endpointId =>
    have hempty := hgone.resolve_left (by simp)
    exact Nat.add_lt_add_left (free_lt_of_drained heffect.extends hempty hdropped) _
  all_goals cases hdropped

/-- Every waiting command's run holds its latch. -/
structure Undisturbed (process : Process) (config : BridgeConfig) : Prop where
  reached : Reached process config
  unique : Unique config
  holds : ∀ queued ∈ waiting config, HoldsLatch config.store queued

theorem drops_waiting (hthread : config.threads[index]? = some ⟨view, .issue command resume⟩)
    (hallows : view.allows command) (hdropped : other ∈ command.drops config.store) : other ∈ waiting config := by
  cases command
  case release released =>
    obtain rfl := List.mem_singleton.1 hdropped
    exact mem_waiting.2 (.inr ⟨_, List.mem_of_getElem? hthread, hallows.1⟩)
  case startWorker identity => exact mem_waiting.2 (.inl hdropped)
  case stop endpointId => exact mem_waiting.2 (.inl hdropped)
  all_goals cases hdropped

theorem Undisturbed.holds_step (hundisturbed : Undisturbed process config)
    (hthread : config.threads[index]? = some ⟨view, .issue command resume⟩)
    (hspares : sparesCommand config.store choice view queued command = true) (hbefore : queued ∈ waiting config)
    (hafter : queued ∈ waiting ((bridge process).stepped config index choice view command resume)) :
    HoldsLatch (exec process config.store choice command).2 queued := by
  have hallows := hundisturbed.reached.settled.allows_issued hthread
  have hunique := hundisturbed.unique queued.run
  have hstep : System.tokens (held queued.run) (free queued.run)
        ((bridge process).stepped config index choice view command resume)
        + (held queued.run view + free queued.run config.store)
      = System.tokens (held queued.run) (free queued.run) config
        + (held queued.run (view.next command (exec process config.store choice command).1)
          + free queued.run (exec process config.store choice command).2) :=
    System.tokens_step (held queued.run) (free queued.run) (bridge process) hthread choice
  have hone := one_le_tokens hafter
  obtain ⟨kind, hmem, hkind, hsyncing, hrun⟩ := hundisturbed.holds queued hbefore
  refine ⟨kind, hmem, hkind, ?_⟩
  cases latchChange process config.store choice command kind with
  | kept hlatch => exact hlatch ▸ ⟨hsyncing, hrun⟩
  | downgraded downgraded endpointId runId hcommand hqueued hkind' hsyncing' hmatch hlatch =>
    rw [hlatch]
    exact ⟨hsyncing, hrun⟩
  | accepted context runId hcommand hbefore' hothers hlatch hposts =>
    subst hcommand
    rcases hbefore' with hidle | hidle
    · rw [hsyncing] at hidle
      cases hidle
    · exact absurd (of_decide_eq_true hspares) (not_lt.2 hidle)
  | released hcause hlatch =>
    cases hcause with
    | discarded other hdropped hother hmatch hgone =>
      -- What is thrown away held the same latch, so that it was the same command.
      obtain ⟨kind', -, hkind', -, hrun'⟩ := hundisturbed.holds other (drops_waiting hthread hallows hdropped)
      obtain rfl : kind = kind' := Option.some.inj (hother.symm.trans hkind')
      have hsame : other.run = queued.run := Option.some.inj (hrun'.symm.trans hrun)
      have hlt := copies_dropped_lt hallows hdropped hgone
      rw [hsame] at hlt
      omega
    | trustLost endpointId hcommand hsyncing' =>
      subst hcommand
      have hhand : view.hand = some queued := of_decide_eq_true hspares
      have hlt : held queued.run (view.next (.failActiveSyncs endpointId)
          (exec process config.store choice (.failActiveSyncs endpointId)).1) < held queued.run view :=
        one_le_held (.inl hhand)
      have hfree := (effect process config.store choice (.failActiveSyncs endpointId)).free_le (n := queued.run)
      omega
    | terminal frame endpointId hcommand hreleased =>
      subst hcommand
      simp only [sparesCommand, hreleased.1, Bool.false_or, Bool.not_eq_true', List.any_eq_false] at hspares
      exact absurd (decide_eq_true hkind) (hspares kind hreleased.2)
    | expired posted context hcommand hidle =>
      subst hcommand
      exact absurd (of_decide_eq_true hspares) (not_lt.2 hidle)

theorem Undisturbed.move (hundisturbed : Undisturbed process config) (hdistinct : TokensDistinct process config.store)
    {move : Move Actor Choice} (hmove : (bridge process).move config move = some config')
    (hspares : SparesWaiting config move) : Undisturbed process config' := by
  refine ⟨hundisturbed.reached.move hmove, hundisturbed.unique.move hundisturbed.reached hmove, ?_⟩
  intro queued hafter
  obtain ⟨actor, rfl⟩ | ⟨index, choice, view, command, resume, rfl, hthread, rfl⟩ := System.move_cases_unguarded hmove
  · exact hundisturbed.holds queued ((waiting_start _) ▸ hafter)
  · have hallows := hundisturbed.reached.settled.allows_issued hthread
    have hmem : ⟨view, .issue command resume⟩ ∈ config.threads := List.mem_of_getElem? hthread
    have hissued : (view, command) ∈ System.issued config (.step index choice : Move Actor Choice) :=
      System.issued_of_thread hthread choice
    have hbefore (hwaiting : queued ∈ waiting config) : HoldsLatch (exec process config.store choice command).2 queued :=
      hundisturbed.holds_step hthread (hspares _ hissued queued hwaiting) hwaiting hafter
    rcases waiting_cases hafter with hqueue | hhand | hother
    · rcases (effect process config.store choice command).mem_queue_cases hqueue with hqueue | ⟨hholds, -⟩
      · exact hbefore (mem_waiting.2 (.inl hqueue))
      · exact hholds
    · rcases hand_cases hundisturbed.reached.provenance hdistinct (hundisturbed.reached.knows _ hmem) hallows hhand with
        hhand | hqueue | hholds
      · exact hbefore (mem_waiting.2 (.inr ⟨_, hmem, hhand⟩))
      · exact hbefore (mem_waiting.2 (.inl hqueue))
      · exact hholds
    · exact hbefore (mem_waiting.2 (.inr hother))

theorem undisturbed_initial (process : Process) : Undisturbed process (.initial .initial) where
  reached := reached_initial process
  unique := unique_initial
  holds _ hmem := by cases hmem

theorem send_holdsLatch {moves : List (Move Actor Choice)}
    (hrun : (bridge process).run (.initial .initial) moves = some config)
    (hdistinct : TokensDistinct process config.store)
    (hspares : (bridge process).Along SparesWaiting (.initial .initial) moves) {move : Move Actor Choice}
    {sent : Transmission} (hissued : (view, command) ∈ System.issued config move) (hsend : sent ∈ command.transmission) :
    HoldsLatch config.store sent.queued := by
  have hundisturbed : Undisturbed process config :=
    keeps_along_of_distinct (fun _ _ _ hmove hspares hundisturbed hdistinct =>
      hundisturbed.move hdistinct hmove hspares) (undisturbed_initial process) hspares hrun hdistinct
  obtain rfl := eq_send_of_transmission hsend
  obtain ⟨resume, hthread⟩ := System.thread_of_issued hissued
  have hallows := (hundisturbed.reached.settled _ hthread).1
  exact hundisturbed.holds _ (mem_waiting.2 (.inr ⟨_, hthread, hallows.1⟩))

end Waiting

theorem sampleProcess_distinct (store : Store) : TokensDistinct sampleProcess store := by
  intro first _ second _ hsame
  have hlength := congrArg String.length hsame
  simpa [sampleProcess] using hlength

theorem relayToSend_spares :
    (bridge sampleProcess).Along SparesWaiting (.initial .initial) (postCorrelated ++ relayToSend) := by
  decide +kernel

theorem send_holdsLatch_envelope :
    ∃ config view command, (bridge sampleProcess).run (.initial .initial) (postCorrelated ++ relayToSend) = some config ∧
      (view, command) ∈ System.issued config relayStep ∧ (config.store.latches .devices).run = some 0 := by
  obtain ⟨config, hrun, hsend⟩ := Option.bind_eq_some_iff.1 relayToSend_issues
  obtain ⟨⟨view, command⟩, hissued, hsend⟩ := Option.bind_eq_some_iff.1 hsend
  obtain ⟨kind, -, hkind, -, hlatch⟩ :=
    send_holdsLatch hrun (sampleProcess_distinct _) relayToSend_spares hissued hsend
  have hdevices : commandToKind "Sync Nodes" = some .devices := by decide
  obtain rfl : Kind.devices = kind := Option.some.inj (hdevices.symm.trans hkind)
  exact ⟨config, view, command, hrun, hissued, hlatch⟩

def late : Choice := { calm with now := 600 }

/-- A latch expires before its command is taken, a second post is accepted, and then a relay has the first
command ready to send. -/
def expiredThenRelayed : List (Move Actor Choice) :=
  postDevices ++ .start (.post "devices" 1) :: List.replicate 4 (.step 1 late) ++
    .start (.worker 1 1 (1, "id")) :: List.replicate 12 (.step 2 late)

theorem expiredThenRelayed_issues :
    (((bridge sampleProcess).run (.initial .initial) expiredThenRelayed).bind fun config =>
      (System.issued config (.step 2 late : Move Actor Choice)).bind fun issued =>
        issued.2.transmission.map fun sent =>
          (sent, config.store.latches .devices, config.store.queue.map QueuedCommand.run,
            decide (HoldsLatch config.store sent.queued)))
      = some (⟨0, "Sync Nodes", ⟨1, "id", "Sync Nodes", none, none, 0⟩⟩, ⟨.syncing, none, some 1⟩, [1], false) := by
  decide +kernel

/-- The first post's command is sent while the second post holds the latch, with its own command still in the
queue. -/
theorem expired_command_sent :
    ∃ config view command sent, (bridge sampleProcess).run (.initial .initial) expiredThenRelayed = some config ∧
      (view, command) ∈ System.issued config (.step 2 late : Move Actor Choice) ∧ sent ∈ command.transmission ∧
      sent.queued.run = 0 ∧ ¬ HoldsLatch config.store sent.queued ∧
      config.store.latches .devices = ⟨.syncing, none, some 1⟩ ∧ config.store.queue.map QueuedCommand.run = [1] := by
  obtain ⟨config, hrun, hsend⟩ := Option.bind_eq_some_iff.1 expiredThenRelayed_issues
  obtain ⟨⟨view, command⟩, hissued, hsend⟩ := Option.bind_eq_some_iff.1 hsend
  obtain ⟨sent, hsend, hstate⟩ := Option.map_eq_some_iff.1 hsend
  obtain ⟨hsent, hstate⟩ := Prod.mk.inj hstate
  obtain ⟨hlatch, hstate⟩ := Prod.mk.inj hstate
  obtain ⟨hqueue, hholds⟩ := Prod.mk.inj hstate
  exact ⟨config, view, command, sent, hrun, hissued, hsend, by rw [hsent], of_decide_eq_false hholds, hlatch, hqueue⟩

/-! ### Latches and their commands -/

/-- A post finds room in the queue, and an await with a command in hand is not interrupted, unless the frame was
written already. -/
def keepsCommand (store : Store) (choice : Choice) (view : View) : Command → Bool
  | .queueSync _ _ => store.queue.length < maxMessageQueueSize
  | .send _ _ _ => choice.raised.isNone || choice.written
  | command => view.hand.isNone || !command.awaits || choice.raised.isNone

def KeepsCommands (config : BridgeConfig) : Move Actor Choice → Prop
  | .start _ => True
  | .step index choice =>
    ∀ issued ∈ System.issued config (.step index choice : Move Actor Choice),
      keepsCommand config.store choice issued.1 issued.2 = true

instance (config : BridgeConfig) : (move : Move Actor Choice) → Decidable (KeepsCommands config move)
  | .start _ => .isTrue trivial
  | .step index choice =>
    inferInstanceAs (Decidable (∀ issued ∈ System.issued config (.step index choice : Move Actor Choice), _))

/-- The commands that are waiting and were not downgraded since they were taken off the queue. -/
def Unmarked (config : BridgeConfig) (queued : QueuedCommand) : Prop :=
  queued ∈ config.store.queue ∨
    ∃ thread ∈ config.threads, thread.view.hand = some queued ∧ thread.view.downgraded = false

/-- The command of a post is in the queue, in a hand, or was sent. -/
def InCustody (config : BridgeConfig) (n : Nat) : Prop :=
  (∃ queued ∈ waiting config, queued.run = n) ∨ ∃ sent ∈ config.store.wire, sent.queued.run = n

structure Custody (process : Process) (config : BridgeConfig) : Prop where
  reached : Reached process config
  unique : Unique config
  /-- A latch has the run id of its command until that is downgraded. -/
  aligned : ∀ queued, Unmarked config queued → ∀ kind, (config.store.latches kind).run = some queued.run →
    (config.store.latches kind).runId = queued.runId
  kept : ∀ kind n, (config.store.latches kind).run = some n → InCustody config n

section Custody

variable {process : Process} {config config' : BridgeConfig} {queued : QueuedCommand} {index : Nat} {kind : Kind}
  {choice : Choice} {view : View} {command : Command} {resume : command.Reply → Program Command Command.Reply Unit}

theorem Unmarked.waiting (hunmarked : Unmarked config queued) : queued ∈ waiting config := by
  rcases hunmarked with hqueue | ⟨thread, hmem, hhand, -⟩
  · exact mem_waiting.2 (.inl hqueue)
  · exact mem_waiting.2 (.inr ⟨thread, hmem, hhand⟩)

theorem Reached.recorded (hreached : Reached process config) (hwaiting : queued ∈ waiting config) :
    Recorded config.store queued := by
  rcases mem_waiting.1 hwaiting with hqueue | ⟨thread, hmem, hhand⟩
  · exact hreached.provenance.queue queued hqueue
  · exact (hreached.knows thread hmem).hand queued hhand

theorem Provenance.run_lt {store : Store} (hprovenance : Provenance process store) {n : Nat}
    (hrun : (store.latches kind).run = some n) : n < store.posts.length := by
  obtain ⟨post, hpost, -⟩ := hprovenance.latch kind n hrun
  exact (List.getElem?_eq_some_iff.1 hpost).1

theorem unmarked_start {program : Program Command Command.Reply Unit}
    (hunmarked : Unmarked ⟨config.store, config.threads ++ [⟨View.unseen, program⟩]⟩ queued) :
    Unmarked config queued := by
  rcases hunmarked with hqueue | ⟨thread, hmem, hhand, hfresh⟩
  · exact .inl hqueue
  · rcases List.mem_append.1 hmem with hmem | hmem
    · exact .inr ⟨thread, hmem, hhand, hfresh⟩
    · obtain rfl := List.mem_singleton.1 hmem
      cases hhand

theorem unmarked_cases {store' : Store} {view' : View} {program : Program Command Command.Reply Unit}
    (hunmarked : Unmarked ⟨store', config.threads.set index ⟨view', program⟩⟩ queued) :
    queued ∈ store'.queue ∨ (view'.hand = some queued ∧ view'.downgraded = false) ∨
      ∃ thread ∈ config.threads, thread.view.hand = some queued ∧ thread.view.downgraded = false := by
  rcases hunmarked with hqueue | ⟨thread, hmem, hhand⟩
  · exact .inl hqueue
  · rcases List.mem_or_eq_of_mem_set hmem with hmem | rfl
    · exact .inr (.inr ⟨thread, hmem, hhand⟩)
    · exact .inr (.inl hhand)

theorem unmarked_hand_cases {store : Store} (hallows : view.allows command)
    (hhand : (view.next command (exec process store choice command).1).hand = some queued)
    (hfresh : (view.next command (exec process store choice command).1).downgraded = false) :
    (view.hand = some queued ∧ view.downgraded = false) ∨ queued ∈ store.queue := by
  have hlearned := learned process store choice hallows
  generalize view.next command (exec process store choice command).1 = view' at hlearned hhand hfresh
  cases hlearned with
  | kept hkept hsent hdowngraded hsocket hsession => exact .inl ⟨hkept ▸ hhand, hdowngraded ▸ hfresh⟩
  | taken taken rest hqueue hidle =>
    obtain rfl := Option.some.inj hhand
    exact .inr (hqueue ▸ List.mem_cons_self)
  | refused | connected | opened => exact .inl ⟨hhand, hfresh⟩
  | marked | again => cases hfresh
  | interrupted | failed | dropped | sent => cases hhand

theorem unmarked_step (hthread : config.threads[index]? = some ⟨view, .issue command resume⟩)
    (hallows : view.allows command)
    (hunmarked : Unmarked ((bridge process).stepped config index choice view command resume) queued) :
    Unmarked config queued ∨ queued.run = config.store.posts.length := by
  have hmem : ⟨view, .issue command resume⟩ ∈ config.threads := List.mem_of_getElem? hthread
  rcases unmarked_cases hunmarked with hqueue | ⟨hhand, hfresh⟩ | hother
  · rcases (effect process config.store choice command).mem_queue_cases hqueue with hqueue | ⟨-, hrun⟩
    · exact .inl (.inl hqueue)
    · exact .inr hrun
  · rcases unmarked_hand_cases hallows hhand hfresh with hhand | hqueue
    · exact .inl (.inr ⟨_, hmem, hhand⟩)
    · exact .inl (.inl hqueue)
  · exact .inl (.inr hother)

variable {downgraded : QueuedCommand}

theorem downgrade_marks {store : Store} {endpointId : Int}
    (hallows : view.allows (.downgrade downgraded endpointId))
    (hhand : (view.next (.downgrade downgraded endpointId)
      (exec process store choice (.downgrade downgraded endpointId)).1).hand = some queued) :
    (view.next (.downgrade downgraded endpointId)
      (exec process store choice (.downgrade downgraded endpointId)).1).downgraded = true := by
  simp only [exec, View.next] at hhand ⊢
  rcases hallows with hold | ⟨hidle, -⟩
  · rw [View.learn_downgrade_of_hand hold]
  · rw [View.learn_downgrade_of_idle hidle] at hhand ⊢
    split_ifs at hhand ⊢
    · rfl
    · rw [hidle] at hhand
      cases hhand

theorem Custody.not_unmarked_of_downgrade (hcustody : Custody process config) {endpointId : Int}
    {resume : (Command.downgrade downgraded endpointId).Reply → Program Command Command.Reply Unit}
    (hthread : config.threads[index]? = some ⟨view, .issue (.downgrade downgraded endpointId) resume⟩)
    (hsame : queued.run = downgraded.run) :
    ¬ Unmarked ((bridge process).stepped config index choice view (.downgrade downgraded endpointId) resume) queued := by
  have hallows := hcustody.reached.settled.allows_issued hthread
  have hunique := hcustody.unique queued.run
  have hheld : 1 ≤ held queued.run view := by
    rw [hsame]
    exact one_le_held (hallows.imp_right And.right)
  rintro (hqueue | ⟨thread, hmem, hhand, hfresh⟩)
  · have hkept : (exec process config.store choice (.downgrade downgraded endpointId)).2.queue = config.store.queue := by
      rcases downgradeQueuedRun_cases choice.now downgraded endpointId config.store with heq | ⟨_, _, -, -, -, -, heq⟩
      · rw [exec, heq]
      · rw [exec, heq]
        rfl
    have hfree := one_le_free (hkept ▸ hqueue)
    have hle := System.le_tokens (held queued.run) (free queued.run) (List.mem_of_getElem? hthread)
    dsimp only at hle
    omega
  · rcases System.held_add_le_tokens (held queued.run) (free queued.run) hthread hmem with rfl | hle
    · have hmarked : (view.next (.downgrade downgraded endpointId)
          (exec process config.store choice (.downgrade downgraded endpointId)).1).downgraded = true :=
        downgrade_marks hallows hhand
      cases hmarked.symm.trans hfresh
    · have hheld' := one_le_held (.inl hhand)
      dsimp only at hle
      omega

theorem Custody.aligned_step (hcustody : Custody process config) (hdistinct : TokensDistinct process config.store)
    (hthread : config.threads[index]? = some ⟨view, .issue command resume⟩)
    (hreached : Reached process ((bridge process).stepped config index choice view command resume))
    (hunmarked : Unmarked ((bridge process).stepped config index choice view command resume) queued)
    (hrun : ((exec process config.store choice command).2.latches kind).run = some queued.run) :
    ((exec process config.store choice command).2.latches kind).runId = queued.runId := by
  have hallows := hcustody.reached.settled.allows_issued hthread
  have hprovenance := hcustody.reached.provenance
  -- A run that was latched before is not that of a command posted just now.
  have hbefore (hlatch : (config.store.latches kind).run = some queued.run) :
      (config.store.latches kind).runId = queued.runId := by
    rcases unmarked_step hthread hallows hunmarked with hunmarked | hnew
    · exact hcustody.aligned queued hunmarked kind hlatch
    · exact absurd (hprovenance.run_lt hlatch) (by omega)
  cases latchChange process config.store choice command kind with
  | kept hlatch =>
    rw [hlatch] at hrun ⊢
    exact hbefore hrun
  | downgraded downgraded endpointId runId hcommand hqueued hkind hsyncing hmatch hlatch =>
    subst hcommand
    have hrecorded : Recorded config.store downgraded := by
      have hknows := hcustody.reached.knows _ (List.mem_of_getElem? hthread)
      rcases hallows with hhand | ⟨-, hsent⟩
      · exact hknows.hand downgraded hhand
      · exact hknows.sent downgraded hsent
    have hsame := hprovenance.run_eq_of_runId hrecorded hqueued hsyncing hmatch hdistinct
    rw [hlatch] at hrun
    exact absurd hunmarked (hcustody.not_unmarked_of_downgrade hthread (Option.some.inj (hrun.symm.trans hsame)))
  | accepted context runId hcommand hbefore' hothers hlatch hposts =>
    rw [hlatch] at hrun ⊢
    obtain ⟨post, hpost, -, -, hrunId⟩ := hreached.recorded hunmarked.waiting
    rw [← Option.some.inj hrun] at hpost
    change (exec process config.store choice command).2.posts[config.store.posts.length]? = some post at hpost
    rw [hposts, List.getElem?_concat_length] at hpost
    obtain rfl := Option.some.inj hpost
    exact hrunId
  | released hcause hlatch => simp [hlatch, Latch.released] at hrun

theorem Effect.queue_cases {store store' : Store} (heffect : Effect process store choice command store')
    (hmem : queued ∈ store.queue) :
    queued ∈ store'.queue ∨ (command = .getNowait ∧ store.queue.head? = some queued) ∨
      store'.latches = store.queue.foldl releaseCommand store.latches := by
  cases heffect with
  | taken =>
    cases hqueue : store.queue with
    | nil =>
      rw [hqueue] at hmem
      cases hmem
    | cons head rest =>
      rw [hqueue] at hmem
      rcases List.mem_cons.1 hmem with rfl | hmem
      · exact .inr (.inl ⟨rfl, rfl⟩)
      · exact .inl hmem
  | drained => exact .inr (.inr rfl)
  | accepted kind context free hfreed hworker hconnection =>
    have hqueue : store.queue = free.queue := by rw [hfreed.records]
    rw [hqueue] at hmem
    rcases acceptSync_cases process choice.now kind context free with ⟨-, heq⟩ | ⟨-, heq⟩
    · rw [heq]
      exact .inl (List.mem_append_left _ hmem)
    · rw [heq]
      exact .inl (List.mem_append_left _ hmem)
  | quiet | cached | connected | opened | closed | sent | started => exact .inl hmem

theorem Provenance.kind_of_recorded {store : Store} (hprovenance : Provenance process store)
    (hrecorded : Recorded store queued) (hlatch : (store.latches kind).run = some queued.run) :
    commandToKind queued.command = some kind := by
  obtain ⟨post, hpost, hcommand, -, -⟩ := hrecorded
  obtain ⟨post', hpost', rfl, -⟩ := hprovenance.latch kind queued.run hlatch
  obtain rfl := Option.some.inj (hpost.symm.trans hpost')
  rw [hcommand, commandToKind_command]

theorem Custody.released_of_dropped (hcustody : Custody process config) {dropped : List QueuedCommand}
    (hmem : queued ∈ dropped) (hunmarked : Unmarked config queued)
    (hlatch : (config.store.latches kind).run = some queued.run) :
    (dropped.foldl releaseCommand config.store.latches kind).run = none := by
  have hkind := hcustody.reached.provenance.kind_of_recorded (hcustody.reached.recorded hunmarked.waiting) hlatch
  rw [foldl_releaseCommand_of_mem hmem hkind (hcustody.aligned queued hunmarked kind hlatch)]
  rfl

theorem mem_wire_of_written {store : Store} {socket : Nat} {frame : String}
    (hwritten : choice.raised.isNone ∨ choice.written = true) :
    ∃ sent ∈ (exec process store choice (.send socket frame queued)).2.wire, sent.queued = queued := by
  refine ⟨⟨socket, frame, queued⟩, ?_, rfl⟩
  rw [exec, if_pos hwritten]
  exact List.mem_append_right _ (List.mem_singleton_self _)

theorem sent_of_interrupted {store : Store} (hallows : view.allows command)
    (hkeeps : keepsCommand store choice view command = true) (hhand : view.hand = some queued)
    (hawaits : command.awaits = true) (hraised : choice.raised ≠ none) :
    ∃ sent ∈ (exec process store choice command).2.wire, sent.queued = queued := by
  cases command
  case send socket frame sent =>
    obtain rfl := Option.some.inj (hallows.1.symm.trans hhand)
    exact mem_wire_of_written (by simpa [keepsCommand] using hkeeps)
  case queueSync kind context => cases hawaits
  all_goals simp [keepsCommand, hhand, hawaits, hraised] at hkeeps

theorem Custody.hand_step (hcustody : Custody process config)
    (hthread : config.threads[index]? = some ⟨view, .issue command resume⟩)
    (hkeeps : keepsCommand config.store choice view command = true) (hhand : view.hand = some queued)
    (hbefore : (config.store.latches kind).run = some queued.run)
    (hafter : ((exec process config.store choice command).2.latches kind).run = some queued.run) :
    (view.next command (exec process config.store choice command).1).hand = some queued ∨
      ∃ sent ∈ (exec process config.store choice command).2.wire, sent.queued = queued := by
  have hallows := hcustody.reached.settled.allows_issued hthread
  have hlearned := learned process config.store choice hallows
  generalize view.next command (exec process config.store choice command).1 = view' at hlearned ⊢
  cases hlearned with
  | kept hkept hsent hdowngraded hsocket hsession => exact .inl (hkept.trans hhand)
  | interrupted hawaits hraised => exact .inr (sent_of_interrupted hallows hkeeps hhand hawaits hraised)
  | failed endpointId =>
    have hsyncing := (hcustody.reached.provenance.syncing kind).2 (by rw [hbefore]; rfl)
    rw [exec, failActiveSyncs_latches, if_pos hsyncing] at hafter
    cases hafter
  | dropped dropped hold hfresh =>
    obtain rfl := Option.some.inj (hold.symm.trans hhand)
    have hunmarked : Unmarked config dropped := .inr ⟨_, List.mem_of_getElem? hthread, hhand, hfresh⟩
    have hreleased := hcustody.released_of_dropped (List.mem_singleton_self dropped) hunmarked hbefore
    exact absurd (hafter.symm.trans hreleased) (by simp)
  | sent socket frame sent hold hraised =>
    obtain rfl := Option.some.inj (hold.symm.trans hhand)
    exact .inr (mem_wire_of_written (.inl (by rw [hraised]; rfl)))
  | taken taken rest hqueue hidle => cases hidle.symm.trans hhand
  | again again endpointId hidle hsent hdowngraded => cases hidle.symm.trans hhand
  | refused | connected | opened | marked => exact .inl hhand

theorem Custody.waiting_step (hcustody : Custody process config)
    (hthread : config.threads[index]? = some ⟨view, .issue command resume⟩)
    (hkeeps : keepsCommand config.store choice view command = true) (hwaiting : queued ∈ waiting config)
    (hbefore : (config.store.latches kind).run = some queued.run)
    (hafter : ((exec process config.store choice command).2.latches kind).run = some queued.run) :
    InCustody ((bridge process).stepped config index choice view command resume) queued.run := by
  have hlt := (List.getElem?_eq_some_iff.1 hthread).1
  have hnew : ⟨view.next command (exec process config.store choice command).1,
      resume (exec process config.store choice command).1⟩ ∈
      config.threads.set index ⟨view.next command (exec process config.store choice command).1,
        resume (exec process config.store choice command).1⟩ := List.mem_set hlt _
  rcases mem_waiting.1 hwaiting with hqueue | ⟨thread, hmem, hhand⟩
  · rcases (effect process config.store choice command).queue_cases hqueue with hqueue' | ⟨rfl, hhead⟩ | hdrained
    · exact .inl ⟨queued, mem_waiting.2 (.inl hqueue'), rfl⟩
    · refine .inl ⟨queued, mem_waiting.2 (.inr ⟨_, hnew, ?_⟩), rfl⟩
      simp only [exec, View.next, hhead]
      rfl
    · rw [hdrained, hcustody.released_of_dropped hqueue (.inl hqueue) hbefore] at hafter
      cases hafter
  · rcases System.eq_or_mem_set hthread hmem _ with rfl | hother
    · rcases hcustody.hand_step hthread hkeeps hhand hbefore hafter with hhand' | ⟨sent, hsent, rfl⟩
      · exact .inl ⟨queued, mem_waiting.2 (.inr ⟨_, hnew, hhand'⟩), rfl⟩
      · exact .inr ⟨sent, hsent, rfl⟩
    · exact .inl ⟨queued, mem_waiting.2 (.inr ⟨thread, hother, hhand⟩), rfl⟩

theorem posted_in_queue {store : Store} {context : DispatchContext} (hprovenance : Provenance process store)
    (hroom : store.queue.length < maxMessageQueueSize)
    (hlatch : ((exec process store choice (.queueSync kind context)).2.latches kind).run = some store.posts.length) :
    ∃ queued ∈ (exec process store choice (.queueSync kind context)).2.queue, queued.run = store.posts.length := by
  rcases queueSyncCommand_cases process choice.now kind context store with hkept | ⟨free, hfreed, -, -, haccepted⟩
  · rw [exec, hkept] at hlatch
    exact absurd (hprovenance.run_lt hlatch) (Nat.lt_irrefl _)
  · have hfree : store.queue = free.queue ∧ store.posts = free.posts := by
      rw [hfreed.records]
      exact ⟨rfl, rfl⟩
    rw [hfree.1] at hroom
    rw [exec, haccepted, hfree.2]
    rcases acceptSync_cases process choice.now kind context free with ⟨hfull, -⟩ | ⟨-, heq⟩
    · exact absurd hroom (Nat.not_lt.2 hfull)
    · rw [heq]
      exact ⟨_, List.mem_append_right _ (List.mem_singleton_self _), rfl⟩

theorem Custody.kept_step (hcustody : Custody process config)
    (hthread : config.threads[index]? = some ⟨view, .issue command resume⟩)
    (hkeeps : keepsCommand config.store choice view command = true) {n : Nat}
    (hrun : ((exec process config.store choice command).2.latches kind).run = some n) :
    InCustody ((bridge process).stepped config index choice view command resume) n := by
  have hbefore (hlatch : (config.store.latches kind).run = some n) :
      InCustody ((bridge process).stepped config index choice view command resume) n := by
    rcases hcustody.kept kind n hlatch with ⟨queued, hwaiting, rfl⟩ | ⟨sent, hsent, hsame⟩
    · exact hcustody.waiting_step hthread hkeeps hwaiting hlatch hrun
    · have hwire := (effect process config.store choice command).extends.wire
      exact .inr ⟨sent, hwire.subset hsent, hsame⟩
  cases latchChange process config.store choice command kind with
  | kept hlatch => exact hbefore (hlatch ▸ hrun)
  | downgraded downgraded endpointId runId hcommand hqueued hkind hsyncing hmatch hlatch =>
    rw [hlatch] at hrun
    exact hbefore hrun
  | accepted context runId hcommand hfree hothers hlatch hposts =>
    subst hcommand
    have hposted := posted_in_queue hcustody.reached.provenance (of_decide_eq_true hkeeps) (by rw [hlatch])
    rw [hlatch] at hrun
    obtain ⟨queued, hqueue, hsame⟩ := hposted
    exact .inl ⟨queued, mem_waiting.2 (.inl hqueue), hsame.trans (Option.some.inj hrun)⟩
  | released hcause hlatch => simp [hlatch, Latch.released] at hrun

theorem Custody.move (hcustody : Custody process config) (hdistinct : TokensDistinct process config.store)
    {move : Move Actor Choice} (hmove : (bridge process).move config move = some config')
    (hkeeps : KeepsCommands config move) : Custody process config' := by
  have hreached := hcustody.reached.move hmove
  have hunique := hcustody.unique.move hcustody.reached hmove
  obtain ⟨actor, rfl⟩ | ⟨index, choice, view, command, resume, rfl, hthread, rfl⟩ := System.move_cases_unguarded hmove
  · refine ⟨hreached, hunique, fun queued hunmarked => hcustody.aligned queued (unmarked_start hunmarked), ?_⟩
    intro kind n hrun
    rcases hcustody.kept kind n hrun with ⟨queued, hwaiting, hsame⟩ | hsent
    · exact .inl ⟨queued, (waiting_start _).symm ▸ hwaiting, hsame⟩
    · exact .inr hsent
  · have hissued : (view, command) ∈ System.issued config (.step index choice : Move Actor Choice) :=
      System.issued_of_thread hthread choice
    refine ⟨hreached, hunique, ?_, ?_⟩
    · intro queued hunmarked kind hrun
      exact hcustody.aligned_step hdistinct hthread hreached hunmarked hrun
    · intro kind n hrun
      exact hcustody.kept_step hthread (hkeeps _ hissued) hrun

theorem custody_initial (process : Process) : Custody process (.initial .initial) where
  reached := reached_initial process
  unique := unique_initial
  aligned _ _ _ hrun := by cases hrun
  kept _ _ hrun := by cases hrun

theorem latched_in_custody {moves : List (Move Actor Choice)}
    (hrun : (bridge process).run (.initial .initial) moves = some config)
    (hdistinct : TokensDistinct process config.store)
    (hkeeps : (bridge process).Along KeepsCommands (.initial .initial) moves)
    (hsyncing : (config.store.latches kind).state = .syncing) :
    ∃ n, (config.store.latches kind).run = some n ∧
      ((∃ queued ∈ config.store.queue, queued.run = n) ∨
        (∃ thread ∈ config.threads, ∃ queued, thread.view.hand = some queued ∧ queued.run = n ∧
          ∃ command resume, thread.program = .issue command resume) ∨
        ∃ sent ∈ config.store.wire, sent.queued.run = n) := by
  have hcustody : Custody process config :=
    keeps_along_of_distinct (fun _ _ _ hmove hkeeps hcustody hdistinct => hcustody.move hdistinct hmove hkeeps)
      (custody_initial process) hkeeps hrun hdistinct
  obtain ⟨n, hlatch⟩ := Option.isSome_iff_exists.1 ((hcustody.reached.provenance.syncing kind).1 hsyncing)
  refine ⟨n, hlatch, ?_⟩
  rcases hcustody.kept kind n hlatch with ⟨queued, hwaiting, hsame⟩ | hsent
  · rcases mem_waiting.1 hwaiting with hqueue | ⟨thread, hmem, hhand⟩
    · exact .inl ⟨queued, hqueue, hsame⟩
    · have hissues := hcustody.reached.settled.issues hmem (by rw [hhand]; simp)
      exact .inr (.inl ⟨thread, hmem, queued, hhand, hsame, hissues⟩)
  · exact .inr (.inr hsent)

end Custody

theorem relayToSend_keeps :
    (bridge sampleProcess).Along KeepsCommands (.initial .initial) (postCorrelated ++ relayToSend) ∧
      (((bridge sampleProcess).run (.initial .initial) (postCorrelated ++ relayToSend)).map fun config =>
        config.store.latches .devices) = some ⟨.syncing, some "aaaaaaaaa", some 0⟩ := by
  decide +kernel

theorem latched_in_custody_envelope :
    ∃ config, (bridge sampleProcess).run (.initial .initial) (postCorrelated ++ relayToSend) = some config ∧
      ∃ n, (config.store.latches .devices).run = some n ∧
        ((∃ queued ∈ config.store.queue, queued.run = n) ∨
          (∃ thread ∈ config.threads, ∃ queued, thread.view.hand = some queued ∧ queued.run = n ∧
            ∃ command resume, thread.program = .issue command resume) ∨
          ∃ sent ∈ config.store.wire, sent.queued.run = n) := by
  obtain ⟨hkeeps, hlatch⟩ := relayToSend_keeps
  obtain ⟨config, hrun, hlatch⟩ := Option.map_eq_some_iff.1 hlatch
  exact ⟨config, hrun, latched_in_custody hrun (sampleProcess_distinct _) hkeeps (by rw [hlatch])⟩

/-- A relay takes the command of a post off the queue, and the connection closes as it sends it. -/
def closedOnSend : List (Move Actor Choice) :=
  postDevices ++ .start (.worker 1 1 (1, "id")) :: List.replicate 12 (.step 1 calm) ++
    [.step 1 { calm with raised := some .connectionClosed }]

theorem latched_without_command :
    (((bridge sampleProcess).run (.initial .initial) closedOnSend).map fun config =>
      (config.store.latches .devices, config.store.queue, config.threads.map fun thread => thread.view.hand,
        config.store.wire))
      = some (⟨.syncing, none, some 0⟩, [], [none, none], []) := by
  decide +kernel

end Proxbox.WebSocket
