import Proxbox.WebSocket.Transmission
/-!
# The capability of a connection

A query looks at the cache, asks the backend without the lock, and looks at the cache again before it answers.
Once a rejection is noted for a connection, that second look settles every query of it, also one that was under
way, for as long as the connection is the current one.
-/

namespace Proxbox.WebSocket

open Interleaving

/-! ### Rejections -/

/-- A rejection is noted for the connection, or it is not the current one. -/
def Rejected (store : Store) (key : Connection) : Prop :=
  store.capabilityCache key = some ⟨.never, false⟩ ∨ store.connectionIdentity ≠ some key

/-- A query of the connection is answered with no, at either of the two places where it may end. -/
def NeverSupported (store : Store) (key : Connection) : Prop :=
  (∀ now refresh, capabilityDecision key now refresh store = some false) ∧
    ∀ before now supported, (recordCapability key before now supported store).1 = false

section Rejections

variable {process : Process} {store : Store} {choice : Choice} {key : Connection} {command : Command}

theorem neverSupported_of_rejected (hrejected : Rejected store key) : NeverSupported store key := by
  by_cases hcurrent : store.connectionIdentity = some key
  · have hcache := hrejected.resolve_right (not_not.2 hcurrent)
    constructor
    · intro now refresh
      simp [capabilityDecision, hcurrent, hcache]
    · intro before now supported
      simp [recordCapability, hcache]
  · constructor
    · intro now refresh
      simp [capabilityDecision, hcurrent]
    · intro before now supported
      rw [recordCapability, if_pos hcurrent]
      split_ifs <;> rfl

theorem Rejected.recordCapability (hrejected : Rejected store key) (other : Connection) (before now : Rat)
    (supported : Bool) : Rejected (recordCapability other before now supported store).2 key := by
  by_cases hkey : other = key
  · subst hkey
    have hsame : (WebSocket.recordCapability other before now supported store).2 = store := by
      rw [WebSocket.recordCapability]
      rcases hrejected with hcache | hcurrent
      · simp [hcache]
      · rw [if_pos hcurrent]
        split_ifs <;> rfl
    rw [hsame]
    exact hrejected
  · rw [WebSocket.recordCapability]
    split_ifs
    · exact hrejected
    · exact hrejected
    · refine hrejected.imp_left fun hcache => ?_
      simp [Function.update_of_ne (Ne.symm hkey), hcache, Expiry.reached]

theorem Rejected.closeConnectionSession (hrejected : Rejected store key) (other : Connection) :
    Rejected (closeConnectionSession other store) key := by
  by_cases hkey : other = key
  · subst hkey
    refine .inr ?_
    simp only [WebSocket.closeConnectionSession]
    split_ifs with hcurrent
    · simp
    · exact hcurrent
  · rcases hrejected with hcache | hcurrent
    · refine .inl ?_
      simp [WebSocket.closeConnectionSession, Function.update_of_ne (Ne.symm hkey), invalidatePositiveCapability, hcache]
    · refine .inr ?_
      simp only [WebSocket.closeConnectionSession]
      split_ifs
      · simp
      · exact hcurrent

theorem Rejected.forgetConnection (hrejected : Rejected store key) (identity : Identity) :
    Rejected (forgetConnection identity store) key := by
  unfold WebSocket.forgetConnection
  split
  · exact hrejected
  · split_ifs
    · exact .inr (by simp)
    · exact hrejected

theorem Rejected.openConnectionSession {n : Nat} (hdrawn : n < store.drawn) (hkey : key.connectionId = process.tokens n)
    (worker : Identity) (hdistinct : TokensDistinct process (openConnectionSession process worker store).2) :
    Rejected (openConnectionSession process worker store).2 key := by
  refine .inr fun hcurrent => ?_
  have htoken : process.tokens store.drawn = process.tokens n := by
    rw [← hkey, ← Option.some.inj hcurrent]
  have hsame := hdistinct store.drawn (Nat.lt_succ_self _) n (Nat.lt_succ_of_lt hdrawn) htoken
  omega

theorem Rejected.exec {n : Nat} (hrejected : Rejected store key) (hdrawn : n < store.drawn)
    (hkey : key.connectionId = process.tokens n)
    (hdistinct : TokensDistinct process (exec process store choice command).2) :
    Rejected (exec process store choice command).2 key := by
  cases command
  case recordCapability other before supported => exact hrejected.recordCapability other before choice.now supported
  case markNegative other =>
    by_cases hother : key = other
    · exact .inl (by simp [WebSocket.exec, markConnectionCapabilityNegative, hother])
    · refine hrejected.imp_left fun hcache => ?_
      simp [WebSocket.exec, markConnectionCapabilityNegative, Function.update_of_ne hother, hcache]
  case openSession worker => exact .openConnectionSession hdrawn hkey worker hdistinct
  case closeSession other => exact hrejected.closeConnectionSession other
  case stop endpointId =>
    rcases stopWebsocket_cases endpointId store with hkept | ⟨identity, -, hstopped⟩
    · rw [WebSocket.exec, hkept]
      exact hrejected
    · have hidle : Rejected { store with taskIdentity := none } key := hrejected
      rw [WebSocket.exec, hstopped]
      exact hidle.forgetConnection identity
  case queueSync kind context =>
    rcases queueSyncCommand_cases process choice.now kind context store with hkept | ⟨free, hfreed, -, -, haccepted⟩
    · rw [WebSocket.exec, hkept]
      exact hrejected
    · rw [WebSocket.exec, haccepted]
      have hfree : Rejected free key := by
        rw [hfreed.records]
        exact hrejected
      rcases acceptSync_cases process choice.now kind context free with ⟨-, heq⟩ | ⟨-, heq⟩
      · rw [heq]
        exact hfree
      · rw [heq]
        exact hfree
  case failActiveSyncs endpointId =>
    obtain ⟨messages, activity, latches, -, hfailed⟩ := failActiveSyncs_quiet choice.now endpointId store
    rw [WebSocket.exec, hfailed]
    exact hrejected
  case downgrade queued endpointId =>
    rcases downgradeQueuedRun_cases choice.now queued endpointId store with hkept | ⟨kind, runId, -, -, -, -, heq⟩
    · rw [WebSocket.exec, hkept]
      exact hrejected
    · rw [WebSocket.exec, heq]
      exact hrejected
  case startWorker identity =>
    rcases startWorker_cases identity choice.running store with hkept | ⟨-, hstarted⟩ | hreplaced
    · rw [WebSocket.exec, hkept]
      exact hrejected
    · rw [WebSocket.exec, hstarted]
      exact hrejected
    · rw [WebSocket.exec, hreplaced]
      exact hrejected
  case connect worker =>
    rw [WebSocket.exec]
    split_ifs <;> exact hrejected
  case send socket frame queued =>
    rw [WebSocket.exec]
    split_ifs <;> exact hrejected
  all_goals exact hrejected

end Rejections

/-! ### Answers -/

def Command.rejection : Command → Option Connection
  | .markNegative key => some key
  | _ => none

def Command.answer : Command → Option (Connection × Bool)
  | .recordCapability key _ supported => some (key, supported)
  | _ => none

theorem eq_markNegative_of_rejection {command : Command} {key : Connection} (hrejection : key ∈ command.rejection) :
    command = .markNegative key := by
  cases command
  case markNegative key =>
    obtain rfl := Option.some.inj hrejection
    rfl
  all_goals cases hrejection

/-- What is done because a query was answered with yes is done for the connection that was asked about. -/
def UsesOwnAnswer (process : Process) (store : Store) (view : View) (command : Command) : Prop :=
  (∀ sent ∈ command.transmission, sent.frame ≠ sent.queued.command →
    ∃ key, view.session = some key ∧ view.positive = some key) ∧
  ∀ kind context, command = .queueSync kind context → context.useRunId = true →
    ∃ key, context.connection = some key ∧ view.positive = some key ∧
      ∀ choice, (exec process store choice command).2.posts ≠ store.posts → store.connectionIdentity = some key

section Runs

variable {process : Process} {config config' : BridgeConfig} {moves : List (Move Actor Choice)}

theorem usesOwnAnswer_of_allows {store : Store} {view : View} {command : Command} (hallows : view.allows command) :
    UsesOwnAnswer process store view command := by
  constructor
  · intro sent hsent henvelope
    obtain rfl := eq_send_of_transmission hsent
    obtain ⟨-, -, -, hframe | ⟨runId, -, -, hpositive, hsession⟩⟩ := hallows
    · exact absurd hframe henvelope
    · obtain ⟨key, hkey⟩ := Option.isSome_iff_exists.1 hsession
      exact ⟨key, hkey, hpositive.trans hkey⟩
  · rintro kind context rfl huse
    obtain ⟨hconnection, hpositive⟩ := hallows huse
    obtain ⟨key, hkey⟩ := Option.isSome_iff_exists.1 hconnection
    refine ⟨key, hkey, hpositive.trans hkey, fun choice hposts => ?_⟩
    rcases queueSyncCommand_cases process choice.now kind context store with hkept | ⟨free, -, -, hcurrent, -⟩
    · exact absurd (by rw [exec, hkept]) hposts
    · exact (hcurrent hconnection).trans hkey

/-- The connection has an id that was drawn, and is rejected unless a token is drawn twice. -/
structure Denied (process : Process) (key : Connection) (config : BridgeConfig) : Prop where
  drawn : ∃ n < config.store.drawn, key.connectionId = process.tokens n
  rejected : TokensDistinct process config.store → Rejected config.store key

theorem Denied.move {key : Connection} (hdenied : Denied process key config) {move : Move Actor Choice}
    (hmove : (bridge process).move config move = some config') : Denied process key config' := by
  obtain ⟨⟨n, hdrawn, hkey⟩, hrejected⟩ := hdenied
  obtain ⟨actor, rfl⟩ | ⟨index, choice, view, command, resume, -, -, rfl⟩ := System.move_cases_unguarded hmove
  · exact ⟨⟨n, hdrawn, hkey⟩, hrejected⟩
  · have hextends := (effect process config.store choice command).extends
    exact ⟨⟨n, hdrawn.trans_le hextends.drawn, hkey⟩,
      fun hdistinct => (hrejected (hdistinct.of_extends hextends)).exec hdrawn hkey hdistinct⟩

theorem Reached.denied_of_marked (hreached : Reached process config) {move : Move Actor Choice} {view : View}
    {key : Connection} (hmarked : (view, .markNegative key) ∈ System.issued config move)
    (hmove : (bridge process).move config move = some config') : Denied process key config' := by
  obtain ⟨index, choice, resume, rfl, hthread, rfl⟩ := System.move_of_issued hmarked hmove
  have hmem := List.mem_of_getElem? hthread
  have hsession : view.session = some key := hreached.settled.allows_issued hthread
  exact ⟨(hreached.knows _ hmem).session key hsession, fun _ => .inl (Function.update_self ..)⟩

theorem capability_monotone (hrun : (bridge process).run (.initial .initial) moves = some config)
    (hdistinct : TokensDistinct process config.store) :
    (∀ earlier marking later before view command key, moves = earlier ++ marking :: later →
      (bridge process).run (.initial .initial) earlier = some before →
      (view, command) ∈ System.issued before marking → key ∈ command.rejection → NeverSupported config.store key) ∧
    ∀ (move : Move Actor Choice) (view : View) (command : Command), (view, command) ∈ System.issued config move →
      UsesOwnAnswer process config.store view command := by
  constructor
  · rintro earlier marking later before view command key rfl hearlier hmarked hrejection
    obtain rfl := eq_markNegative_of_rejection hrejection
    rw [System.run_append, hearlier, Option.bind_some] at hrun
    obtain ⟨marked, hmove, hlater⟩ := Option.bind_eq_some_iff.1 hrun
    have hdenied := (reached_run hearlier).denied_of_marked hmarked hmove
    have hdenied : Denied process key config :=
      System.keeps_run (Denied process key) (fun _ _ _ hmove hdenied => hdenied.move hmove) hdenied hlater
    exact neverSupported_of_rejected (hdenied.rejected hdistinct)
  · intro move view command hissued
    obtain ⟨resume, hthread⟩ := System.thread_of_issued hissued
    exact usesOwnAnswer_of_allows ((reached_run hrun).settled _ hthread).1

end Runs

def sampleConnection : Connection := ⟨1, "id", "aaaaaaaa"⟩

/-- A query asks the backend while the relay sends an envelope and receives the rejection of it. -/
def queryDuringRejection : List (Move Actor Choice) :=
  postCorrelated ++ .start (.query sampleConnection true) :: List.replicate 2 (.step 2 calm) ++
    List.replicate 12 (.step 0 calm) ++
    .step 0 { calm with received := some ⟨invalidCommandMessage, .invalid⟩ } :: List.replicate 2 (.step 0 calm)

theorem queryDuringRejection_issues :
    (((bridge sampleProcess).run (.initial .initial) queryDuringRejection).bind fun before =>
      ((bridge sampleProcess).run before [relayStep, .step 2 calm]).bind fun config =>
        (System.issued before relayStep).bind fun marking =>
          (System.issued config (.step 2 calm : Move Actor Choice)).map fun answered =>
            (marking.2.rejection, answered.2.answer)) = some (some sampleConnection, some (sampleConnection, true)) := by
  decide +kernel

theorem capability_monotone_query :
    ∃ config view command, (bridge sampleProcess).run (.initial .initial)
        (queryDuringRejection ++ [relayStep, .step 2 calm]) = some config ∧
      (view, command) ∈ System.issued config (.step 2 calm : Move Actor Choice) ∧
      command.answer = some (sampleConnection, true) ∧
      ∀ before now, (recordCapability sampleConnection before now true config.store).1 = false := by
  obtain ⟨before, hbefore, hissues⟩ := Option.bind_eq_some_iff.1 queryDuringRejection_issues
  obtain ⟨config, hlater, hissues⟩ := Option.bind_eq_some_iff.1 hissues
  obtain ⟨⟨marker, marking⟩, hmarking, hissues⟩ := Option.bind_eq_some_iff.1 hissues
  obtain ⟨⟨view, command⟩, hanswered, hissues⟩ := Option.map_eq_some_iff.1 hissues
  obtain ⟨hrejection, hanswer⟩ := Prod.mk.inj hissues
  have hrun : (bridge sampleProcess).run (.initial .initial) (queryDuringRejection ++ [relayStep, .step 2 calm])
      = some config := by
    rw [System.run_append, hbefore, Option.bind_some, hlater]
  have hnever := (capability_monotone hrun (sampleProcess_distinct _)).1 _ _ _ _ _ _ _ rfl hbefore hmarking hrejection
  exact ⟨config, view, command, hrun, hanswered, hanswer, fun before now => hnever.2 before now true⟩

end Proxbox.WebSocket
