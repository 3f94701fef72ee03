import Proxbox.WebSocket.Transmission
/-!
# Frames on the wire

What goes over a connection comes from an accepted post, and no post's command goes out more than twice: once in an
envelope, and once bare if the backend rejects that. What may yet be sent carries the count: two frames while the
command waits, one after its envelope or once it is downgraded, none after both.
-/

namespace Proxbox.WebSocket

open Python Interleaving

/-- How many frames the thread may yet send for a post. -/
def due (n : Nat) (view : View) : Nat :=
  view.hand.toList.countP (fun queued => queued.run = n) * (if view.downgraded then 1 else 2)
    + view.sent.toList.countP (fun queued => queued.run = n) * (if view.downgraded then 0 else 1)

def frames (n : Nat) (store : Store) : Nat := store.wire.countP fun sent => sent.queued.run = n

/-- The frames sent for a post, and two for its command if that is queued or yet to come. -/
def spent (n : Nat) (store : Store) : Nat := 2 * free n store + frames n store

/-- No latch has the run id of the command, so that it is not downgraded again. -/
def Retired (store : Store) (queued : QueuedCommand) : Prop :=
  ∀ kind runId, commandToKind queued.command = some kind → queued.runId = some runId →
    (store.latches kind).runId ≠ some runId

/-- The command that the thread would send or downgrade. -/
def View.keeps (view : View) (queued : QueuedCommand) : Prop :=
  view.hand = some queued ∨ view.hand = none ∧ view.sent = some queued

/-- What the thread has downgraded is retired. -/
def Spares (store : Store) (view : View) : Prop :=
  view.downgraded = true → ∀ queued, view.keeps queued → Retired store queued

section Steps

variable {process : Process} {store : Store} {choice : Choice} {view : View} {command : Command} {queued : QueuedCommand}
  {n : Nat}

theorem Retired.not_downgraded (hretired : Retired store queued) (now : Rat) (endpointId : Int) :
    (downgradeQueuedRun now queued endpointId store).1 = false := by
  rcases downgradeQueuedRun_cases now queued endpointId store with heq | ⟨kind, runId, hkind, hrunId, -, hlatch, -⟩
  · rw [heq]
  · exact absurd hlatch (hretired kind runId hkind hrunId)

theorem retired_downgrade (hcoherent : LatchesCoherent store.latches) (now : Rat) (endpointId : Int) :
    Retired (downgradeQueuedRun now queued endpointId store).2 queued := by
  intro kind runId hkind hrunId
  rw [downgradeQueuedRun, hkind, hrunId]
  dsimp only
  split_ifs with hlatch
  · simp [Store.appendMessage, Store.setLatch]
  · intro heq
    exact hlatch ⟨hcoherent.recorded kind (by rw [heq]; rfl), heq⟩

theorem Retired.exec (hretired : Retired store queued) (hprovenance : Provenance process store)
    (hrecorded : Recorded store queued) (hdistinct : TokensDistinct process (exec process store choice command).2) :
    Retired (exec process store choice command).2 queued := by
  intro kind runId hkind hrunId
  cases latchChange process store choice command kind with
  | kept hlatch =>
    rw [hlatch]
    exact hretired kind runId hkind hrunId
  | released hcause hlatch => simp [hlatch, Latch.released]
  | downgraded other endpointId otherId hcommand hother hotherKind hsyncing hmatch hlatch => simp [hlatch]
  | accepted context newId hcommand hbefore hothers hlatch hposts =>
    rw [hlatch]
    obtain ⟨post, hpost, -, -, hsame⟩ := hrecorded
    have hpairwise := (hprovenance.exec choice command).distinct hdistinct
    rw [hposts] at hpairwise
    have hne := (List.pairwise_append.mp hpairwise).2.2 post (List.mem_of_getElem? hpost) _ (List.mem_singleton_self _)
    rw [hsame, hrunId] at hne
    exact fun heq => hne rfl heq.symm

theorem wire_exec (process : Process) (store : Store) (choice : Choice) (command : Command) :
    (exec process store choice command).2.wire = store.wire ∨
      ∃ socket frame queued, command = .send socket frame queued ∧
        (exec process store choice command).2 = { store with wire := store.wire ++ [⟨socket, frame, queued⟩] } := by
  have heffect := effect process store choice command
  generalize (exec process store choice command).2 = store' at heffect ⊢
  cases heffect with
  | sent socket frame queued hwritten => exact .inr ⟨socket, frame, queued, rfl, rfl⟩
  | accepted kind context free hfreed hworker hconnection =>
    have hfree : free.wire = store.wire := by rw [hfreed.records]
    rcases acceptSync_cases process choice.now kind context free with ⟨-, heq⟩ | ⟨-,
      heq⟩ <;> exact .inl (by rw [heq]; exact hfree)
  | _ => exact .inl rfl

theorem due_send_le (hhand : view.hand = some queued) (socket : Nat) (frame : String)
    (reply : (Command.send socket frame queued).Reply) :
    due n (view.next (.send socket frame queued) reply) + (if queued.run = n then 1 else 0) ≤ due n view := by
  cases reply with
  | error raised =>
    simp only [View.next, View.interrupt, due, hhand, Option.toList, List.countP_nil, List.countP_singleton]
    grind
  | ok value =>
    simp only [View.next, View.learn, due, hhand, Option.toList, List.countP_nil, List.countP_singleton]
    grind

theorem due_exec_le (hallows : view.allows command) (hspares : Spares store view) :
    due n (view.next command (exec process store choice command).1) + 2 * free n (exec process store choice command).2
      ≤ due n view + 2 * free n store := by
  have hfree := @Effect.free_le _ _ _ _ _ n (effect process store choice command)
  have hlearned := learned process store choice hallows
  generalize hview : view.next command (exec process store choice command).1 = view' at hlearned ⊢
  cases hlearned with
  | kept hhand hsent hdowngraded hsocket hsession =>
    have hsame : due n view' = due n view := by rw [due, hhand, hsent, hdowngraded]; rfl
    omega
  | taken queued rest hqueue hhand =>
    simp only [exec, free, due, hqueue, hhand, Option.toList, List.countP_nil, List.countP_cons, List.tail_cons]
    grind
  | dropped queued hhand hfresh =>
    simp only [due, hhand, Option.toList, List.countP_nil] at hfree ⊢
    omega
  | sent socket frame queued hhand hraised =>
    have hsend := @due_send_le view queued n hhand socket frame (exec process store choice (.send socket frame queued)).1
    rw [hview] at hsend
    omega
  | marked queued endpointId hhand =>
    have hmarked : due n { view with downgraded := true } ≤ due n view := by
      simp only [due]
      grind
    omega
  | again queued endpointId hhand hsent hdowngraded =>
    have hfresh : view.downgraded = false := by
      rw [← Bool.not_eq_true]
      intro hmarked
      rw [(hspares hmarked queued (.inr ⟨hhand, hsent⟩)).not_downgraded] at hdowngraded
      cases hdowngraded
    simp only [due, hhand, hsent, hfresh, Option.toList, List.countP_nil, List.countP_singleton] at hfree ⊢
    grind
  | interrupted | failed =>
    have hnone : due n view.interrupt = 0 := by simp [due, View.interrupt]
    change due n view.interrupt + _ ≤ _
    omega
  | refused | connected | opened =>
    simp only [due]
    omega

theorem spent_exec_le (hallows : view.allows command) (hspares : Spares store view) :
    due n (view.next command (exec process store choice command).1) + spent n (exec process store choice command).2
      ≤ due n view + spent n store := by
  rcases wire_exec process store choice command with hwire | ⟨socket, frame, queued, rfl, hstore⟩
  · have hdue := @due_exec_le process store choice view command n hallows hspares
    have hframes : frames n (exec process store choice command).2 = frames n store := by rw [frames, hwire]; rfl
    unfold spent
    omega
  · have hdue := @due_send_le view queued n hallows.1 socket frame (exec process store choice (.send socket frame queued)).1
    have hspent : spent n (exec process store choice (.send socket frame queued)).2
        = spent n store + if queued.run = n then 1 else 0 := by
      rw [hstore]
      simp [spent, free, frames, List.countP_append, List.countP_singleton, Nat.add_assoc]
    omega

theorem Spares.next (hcoherent : LatchesCoherent store.latches) (hallows : view.allows command)
    (hspares : Spares (exec process store choice command).2 view) :
    Spares (exec process store choice command).2 (view.next command (exec process store choice command).1) := by
  have hlearned := learned process store choice hallows
  generalize view.next command (exec process store choice command).1 = view' at hlearned ⊢
  intro hmarked queued hkeeps
  cases hlearned with
  | kept hhand hsent hdowngraded hsocket hsession =>
    rw [View.keeps, hhand, hsent] at hkeeps
    exact hspares (hdowngraded ▸ hmarked) queued hkeeps
  | taken other rest hqueue hhand => cases hmarked
  | sent socket frame other hhand hraised =>
    obtain hnone | ⟨-, hsent⟩ := hkeeps
    · cases hnone
    · exact hspares hmarked queued (.inl (hhand.trans hsent))
  | marked other endpointId hhand =>
    obtain hhand' | ⟨hnone, -⟩ := hkeeps
    · obtain rfl := Option.some.inj (hhand.symm.trans hhand')
      exact retired_downgrade hcoherent _ _
    · cases hhand.symm.trans hnone
  | again other endpointId hhand hsent hdowngraded =>
    obtain hhand' | ⟨hnone, -⟩ := hkeeps
    · obtain rfl := Option.some.inj hhand'
      exact retired_downgrade hcoherent _ _
    · cases hnone
  | dropped other hhand hfresh => cases hfresh.symm.trans hmarked
  | interrupted | failed => rcases hkeeps with hnone | ⟨-, hnone⟩ <;> cases hnone
  | refused | connected | opened => exact hspares hmarked queued hkeeps

end Steps

/-! ### Along a run -/

section Runs

variable {process : Process} {moves : List (Move Actor Choice)} {config config' : BridgeConfig}

structure Wired (process : Process) (config : BridgeConfig) : Prop where
  reached : Reached process config
  spares : ∀ thread ∈ config.threads, Spares config.store thread.view
  bounded : ∀ n, System.tokens (due n) (spent n) config ≤ 2

theorem wired_initial (process : Process) : Wired process (.initial .initial) where
  reached := reached_initial process
  spares _ hmem := by cases hmem
  bounded n := by simp [System.tokens, Config.initial, spent, free, frames, Store.initial]

theorem Wired.move (hwired : Wired process config) {move : Move Actor Choice}
    (hmove : (bridge process).move config move = some config') (hdistinct : TokensDistinct process config'.store) :
    Wired process config' := by
  have hreached := hwired.reached.move hmove
  obtain ⟨actor, rfl⟩ | ⟨index, choice, view, command, resume, -, hthread, rfl⟩ := System.move_cases_unguarded hmove
  · refine ⟨hreached, fun thread hmem => ?_, fun n => ?_⟩
    · obtain hold | hnew := List.mem_append.mp hmem
      · exact hwired.spares thread hold
      · obtain rfl := List.mem_singleton.mp hnew
        exact fun hmarked => by cases hmarked
    · simpa [System.tokens, bridge, due, View.unseen] using hwired.bounded n
  · have hallows := hwired.reached.settled.allows_issued hthread
    have hmem := List.mem_of_getElem? hthread
    have hspares {other : Thread View Command Command.Reply} (hother : other ∈ config.threads) :
        Spares (exec process config.store choice command).2 other.view := by
      intro hmarked queued hkeeps
      have hknows := hwired.reached.knows other hother
      have hrecorded := hkeeps.elim (hknows.hand queued) fun hsent => hknows.sent queued hsent.2
      exact (hwired.spares other hother hmarked queued hkeeps).exec hwired.reached.provenance hrecorded hdistinct
    refine ⟨hreached, fun thread hthread' => ?_, fun n => ?_⟩
    · obtain hother | rfl := List.mem_or_eq_of_mem_set hthread'
      · exact hspares hother
      · exact Spares.next hwired.reached.coherent hallows (hspares hmem)
    · have hle := hwired.bounded n
      have hcommand := @spent_exec_le process config.store choice view command n hallows (hwired.spares _ hmem)
      have hstep := System.tokens_step (due n) (spent n) (bridge process) hthread choice
      simp only [bridge] at hstep ⊢
      omega

/-- At most two frames are sent for an accepted post, and none for another. -/
theorem frames_le (hrun : (bridge process).run (.initial .initial) moves = some config)
    (hdistinct : TokensDistinct process config.store) (n : Nat) :
    (config.store.wire.filter fun sent => sent.queued.run = n).length
      ≤ if n < config.store.posts.length then 2 else 0 := by
  have hwired : Wired process config := by
    refine System.keeps_run (fun config => TokensDistinct process config.store → Wired process config)
      (fun config move config' hmove hwired hdistinct => ?_) (fun _ => wired_initial process) hrun hdistinct
    have hextends : Extends config.store config'.store :=
      extends_run (show (bridge process).run config [move] = some config' by rw [System.run, hmove]; rfl)
    exact (hwired (hdistinct.of_extends hextends)).move hmove hdistinct
  have hbounded := hwired.bounded n
  unfold System.tokens spent frames free at hbounded
  rw [← List.countP_eq_length_filter]
  split_ifs at hbounded ⊢ <;> omega

end Runs

theorem relayToSend_frames :
    ∃ config, (bridge sampleProcess).run (.initial .initial) (postCorrelated ++ relayToSend ++ [relayStep]) = some config ∧
      (config.store.wire.filter fun sent => sent.queued.run = 0).length ≤ if 0 < config.store.posts.length then 2 else 0 := by
  have hruns : ((bridge sampleProcess).run (.initial .initial) (postCorrelated ++ relayToSend ++ [relayStep])).isSome := by
    decide +kernel
  obtain ⟨config, hrun⟩ := Option.isSome_iff_exists.mp hruns
  exact ⟨config, hrun, frames_le hrun (sampleProcess_distinct _) 0⟩

end Proxbox.WebSocket
