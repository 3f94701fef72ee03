import Proxbox.WebSocket.Posts
/-!
# What releases a correlated run, and where the next one starts to read

A run with a run id loses its latch in one of four ways only, whatever frames arrive and however the programs
take turns. A post that is accepted afterwards is answered with a cursor past the terminal that released the run
before it.
-/

namespace Proxbox.WebSocket

open Python Interleaving BoundedLog

/-! ### Causes -/

def Released (before after : Latch) : Prop := after.state ≠ .syncing ∨ after.run ≠ before.run

/-- Why the latch of `kind` was released, which a run held under `runId`. -/
inductive ReleaseCause (process : Process) (store store' : Store) (choice : Choice) (view : View) (command : Command)
    (kind : Kind) (runId : String) : Prop where
  | terminal (frame : Frame) (endpointId : Int) (fields : Fields) (hcommand : command = .publish frame endpointId)
      (hpayload : frame.payload = some fields) (hformed : protocolPayloadIsMalformed frame.payload = false)
      (hterminal : IsTerminalOf fields kind runId)
  | expired (posted : Kind) (context : DispatchContext) (hcommand : command = .queueSync posted context)
      (hidle : syncLatchIdleTimeout ≤ choice.now - store.lastSyncActivity)
  /-- The failed terminal with the run id is in the buffer from then on. -/
  | trustLost (endpointId : Int) (hcommand : command = .failActiveSyncs endpointId)
      (hbuffered : (store.messages.last + 1, endpointId, trustFailure kind (some runId)) ∈ store'.messages.entries)
  /-- The run's command is thrown away unsent, with the whole queue or by a relay whose command it is not. -/
  | discarded (queued : QueuedCommand) (hkind : commandToKind queued.command = some kind)
      (hrunId : queued.runId = some runId)
      (hown : TokensDistinct process store → (store.latches kind).run = some queued.run)
      (hunsent : (queued ∈ store.queue ∧ ((∃ identity, command = .startWorker identity) ∨
          ∃ endpointId, command = .stop endpointId)) ∨
        (command = .release queued ∧ view.hand = some queued))

section Causes

variable {process : Process} {store store' : Store} {choice : Choice} {view : View} {command : Command} {kind : Kind}
  {runId : String}

theorem isTerminalOf_of_released {latches : Kind → Latch} {payload : Option Fields}
    (hrunId : (latches kind).runId = some runId) (hreleased : kind ∈ buttonsReleasedBy latches payload) :
    ∃ fields, payload = some fields ∧ IsTerminalOf fields kind runId := by
  unfold buttonsReleasedBy at hreleased
  cases payload with
  | none => cases hreleased
  | some fields =>
    dsimp only at hreleased
    split_ifs at hreleased with hended
    · obtain ⟨hbutton, hmatches⟩ := List.mem_filter.1 hreleased
      rw [hrunId, Bool.and_eq_true] at hmatches
      obtain ⟨hrun, haggregate⟩ := runMatchesButton_correlated hmatches.2
      exact ⟨fields, rfl, hended, hrun, hbutton, haggregate⟩
    · cases hreleased

theorem failActiveSyncs_of_one (now : Rat) (endpointId : Int) (hcoherent : LatchesCoherent store.latches)
    (hsyncing : (store.latches kind).state = .syncing) :
    failActiveSyncsForTrustLoss now endpointId store
      = (store.setLatch kind .released).appendMessage now (trustFailure kind (store.latches kind).runId) endpointId
          true := by
  have hidle (other : Kind) (hother : other ≠ kind) : (store.latches other).state ≠ .syncing :=
    fun hsyncing' => hother (hcoherent.one other kind hsyncing' hsyncing)
  cases kind <;>
    simp [failActiveSyncsForTrustLoss, Kind.all, failActiveSync, hsyncing, hidle, Store.setLatch,
      Store.appendMessage, Latch.released]

theorem messageBufferSize_pos : 0 < messageBufferSize := by
  rw [messageBufferSize]
  exact Nat.succ_pos _

theorem releaseCause (hcoherent : LatchesCoherent store.latches) (hprovenance : Provenance process store)
    (hknows : Knows process store view) (hallows : view.allows command)
    (hsyncing : (store.latches kind).state = .syncing) (hrunId : (store.latches kind).runId = some runId)
    (hreleased : Released (store.latches kind) ((exec process store choice command).2.latches kind)) :
    ReleaseCause process store (exec process store choice command).2 choice view command kind runId := by
  cases latchChange process store choice command kind with
  | kept hlatch =>
    rcases hreleased with hstate | hrun
    · exact absurd (by rw [hlatch, hsyncing]) hstate
    · exact absurd (by rw [hlatch]) hrun
  | downgraded queued endpointId runId' hcommand hqueued hkind hbefore hmatch hlatch =>
    rcases hreleased with hstate | hrun
    · exact absurd (by rw [hlatch, hsyncing]) hstate
    · exact absurd (by rw [hlatch]) hrun
  | accepted context runId' hcommand hbefore hothers hlatch hposts =>
    rcases hbefore with hfree | hidle
    · rw [hsyncing] at hfree
      cases hfree
    · exact .expired kind context hcommand hidle
  | released hcause hlatch =>
    cases hcause with
    | terminal frame endpointId hcommand hreleased =>
      obtain ⟨fields, hpayload, hterminal⟩ := isTerminalOf_of_released hrunId hreleased.2
      exact .terminal frame endpointId fields hcommand hpayload hreleased.1 hterminal
    | expired posted context hcommand hidle => exact .expired posted context hcommand hidle
    | trustLost endpointId hcommand hbefore =>
      refine .trustLost endpointId hcommand ?_
      rw [hcommand, exec, failActiveSyncs_of_one choice.now endpointId hcoherent hsyncing, hrunId]
      exact mem_append_self messageBufferSize_pos store.messages _
    | discarded queued hdropped hkind hmatch hgone =>
      have hqueued : queued.runId = some runId := hmatch.symm.trans hrunId
      have hown (hrecorded : Recorded store queued) (hdistinct : TokensDistinct process store) :
          (store.latches kind).run = some queued.run :=
        hprovenance.run_eq_of_runId hrecorded hqueued hsyncing hrunId hdistinct
      cases command
      case startWorker identity =>
        exact .discarded queued hkind hqueued (hown (hprovenance.queue queued hdropped))
          (.inl ⟨hdropped, .inl ⟨identity, rfl⟩⟩)
      case stop endpointId =>
        exact .discarded queued hkind hqueued (hown (hprovenance.queue queued hdropped))
          (.inl ⟨hdropped, .inr ⟨endpointId, rfl⟩⟩)
      case release released =>
        obtain rfl := List.mem_singleton.1 hdropped
        exact .discarded queued hkind hqueued (hown (hknows.hand queued hallows.1)) (.inr ⟨rfl, hallows.1⟩)
      all_goals cases hdropped

end Causes

section Moves

variable {process : Process} {moves : List (Move Actor Choice)} {move : Move Actor Choice} {config config' : BridgeConfig}
  {kind : Kind} {runId : String}

theorem cause_of_released (hrun : (bridge process).run (.initial .initial) moves = some config)
    (hmove : (bridge process).move config move = some config') (hsyncing : (config.store.latches kind).state = .syncing)
    (hrunId : (config.store.latches kind).runId = some runId)
    (hreleased : Released (config.store.latches kind) (config'.store.latches kind)) :
    ∃ index choice view command, move = .step index choice ∧ (view, command) ∈ System.issued config move ∧
      ReleaseCause process config.store config'.store choice view command kind runId := by
  have hreached := reached_run hrun
  obtain ⟨actor, rfl⟩ | ⟨index, choice, view, command, resume, rfl, hthread, rfl⟩ := System.move_cases_unguarded hmove
  · rcases hreleased with hstate | hother
    · exact absurd hsyncing hstate
    · exact absurd rfl hother
  · refine ⟨index, choice, view, command, rfl, System.issued_of_thread hthread choice, ?_⟩
    exact releaseCause hreached.coherent hreached.provenance (hreached.knows _ (List.mem_of_getElem? hthread))
      (hreached.settled.allows_issued hthread) hsyncing hrunId hreleased

end Moves

def deviceTerminal : Frame where
  text := "\x7b\"object\": \"device\", \"end\": true, \"run_id\": \"aaaaaaaaa\"\x7d"
  loaded := .json (.obj [("object", .str "device"), ("end", .bool true), ("run_id", .str "aaaaaaaaa")])

/-- A relay opens a session, and a correlated post for devices is accepted. -/
def postCorrelated : List (Move Actor Choice) :=
  .start (.worker 2 1 (1, "id")) :: List.replicate 5 (.step 0 calm) ++
    .start (.post "devices" 1) :: List.replicate 8 (.step 1 calm)

/-- The relay sends the envelope and receives the terminal of the run. -/
def relayDevices : List (Move Actor Choice) :=
  List.replicate 12 (.step 0 calm) ++ [.step 0 { calm with received := some deviceTerminal }, .step 0 calm]

def relayStep : Move Actor Choice := .step 0 calm

theorem relayStep_latches :
    (((bridge sampleProcess).run (.initial .initial) (postCorrelated ++ relayDevices)).bind fun config =>
      ((bridge sampleProcess).move config relayStep).map fun config' =>
        (config.store.latches .devices, config'.store.latches .devices))
      = some (⟨.syncing, some "aaaaaaaaa", some 0⟩, .released) := by
  decide +kernel

theorem cause_of_deviceTerminal :
    ∃ config config', (bridge sampleProcess).run (.initial .initial) (postCorrelated ++ relayDevices) = some config ∧
      (bridge sampleProcess).move config relayStep = some config' ∧
      ∃ index choice view command, relayStep = .step index choice ∧
        (view, command) ∈ System.issued config relayStep ∧
        ReleaseCause sampleProcess config.store config'.store choice view command .devices "aaaaaaaaa" := by
  obtain ⟨config, hrun, hlatches⟩ := Option.bind_eq_some_iff.1 relayStep_latches
  obtain ⟨config', hmove, hlatches⟩ := Option.map_eq_some_iff.1 hlatches
  obtain ⟨hbefore, hafter⟩ := Prod.mk.inj hlatches
  refine ⟨config, config', hrun, hmove, ?_⟩
  exact cause_of_released hrun hmove (by rw [hbefore]) (by rw [hbefore]) (.inl (by rw [hafter]; decide))

/-! ### The cursor of the next run -/

theorem toNat_of_isLowerHex {c : Char} (hhex : isLowerHex c = true) : 32 < c.toNat ∧ c.toNat < 127 := by
  simp only [isLowerHex, Char.isDigit, Bool.or_eq_true, Bool.and_eq_true, decide_eq_true_eq, ge_iff_le, Char.le_def,
    UInt32.le_iff_toNat_le] at hhex
  simp only [Char.toNat]
  simp only [Char.reduceVal, UInt32.reduceToNat] at hhex
  omega

theorem formatMessageCursor_toList (process : Process) (sequence : Nat) :
    (formatMessageCursor process sequence).toList
      = process.generation.toList ++ '.' :: (toString sequence).toList := by
  have hnumber : toString (sequence : Int) = toString sequence := rfl
  rw [formatMessageCursor, hnumber, String.toList_append, String.toList_append, List.append_assoc]
  rfl

theorem strip_formatMessageCursor (process : Process) (sequence : Nat) :
    strip (formatMessageCursor process sequence) = formatMessageCursor process sequence := by
  apply strip_of_forall_not_isSpace
  intro c hc
  rw [formatMessageCursor_toList] at hc
  have hchar : isLowerHex c = true ∨ c = '.' := by
    rcases List.mem_append.1 hc with hc | hc
    · exact .inl (List.all_eq_true.1 process.generation_hex.2 c hc)
    · rcases List.mem_cons.1 hc with rfl | hc
      · exact .inr rfl
      · exact .inl (by rw [isLowerHex, toString_isDigit hc, Bool.true_or])
  rcases hchar with hhex | rfl
  · obtain ⟨hlow, hhigh⟩ := toNat_of_isLowerHex hhex
    exact isSpace_of_graphic hlow hhigh
  · decide

theorem parseMessageCursor_format (process : Process) (sequence : Nat) :
    parseMessageCursor process (some (formatMessageCursor process sequence))
      = if (toString sequence).toList.length ≤ 18 then some (some sequence, false) else none := by
  obtain ⟨hlength, hhex⟩ := process.generation_hex
  have htext := formatMessageCursor_toList process sequence
  have hne : formatMessageCursor process sequence ≠ "" := by
    intro hempty
    rw [hempty] at htext
    simp at htext
  have hdigits : (toString sequence).toList.all Char.isDigit = true :=
    List.all_eq_true.2 fun c hc => toString_isDigit hc
  have hpos : 1 ≤ (toString sequence).toList.length := List.length_pos_iff.2 (toString_ne_nil sequence)
  simp only [parseMessageCursor, if_neg hne, strip_formatMessageCursor, htext, List.drop_left' hlength,
    List.take_left' hlength, if_pos hhex, String.ofList_toList, cursorSequence, hdigits, hpos, true_and,
    ofDigitChars_toString, ne_eq, not_true_eq_false, if_false]
  split_ifs <;> rfl

def Command.terminal (store : Store) (kind : Kind) : Command → Option Message
  | .publish frame endpointId => some (endpointId, frame.text)
  | .failActiveSyncs endpointId => some (endpointId, trustFailure kind (store.latches kind).runId)
  | _ => none

section Cursors

variable {process : Process} {moves later : List (Move Actor Choice)} {move : Move Actor Choice}
  {config released before : BridgeConfig} {kind posted : Kind} {view : View} {command : Command} {message : Message}
  {choice : Choice} {context : DispatchContext} {cursor : String} {runId : Option String}

theorem mem_entries_of_terminal {store : Store} {command : Command} (hcoherent : LatchesCoherent store.latches)
    (hsyncing : (store.latches kind).state = .syncing) (hterminal : message ∈ command.terminal store kind) :
    (store.messages.last + 1, message) ∈ (exec process store choice command).2.messages.entries := by
  cases command
  case publish frame endpointId =>
    obtain rfl := Option.some.inj hterminal
    exact mem_append_self messageBufferSize_pos store.messages _
  case failActiveSyncs endpointId =>
    obtain rfl := Option.some.inj hterminal
    rw [exec, failActiveSyncs_of_one choice.now endpointId hcoherent hsyncing]
    exact mem_append_self messageBufferSize_pos store.messages _
  all_goals cases hterminal

theorem cursor_of_accepted {store : Store} (hanswer : (exec process store choice (.queueSync posted context)).1
      = .ok (.answered 202 posted true cursor runId)) :
    cursor = formatMessageCursor process store.messages.last := by
  have hresponse : (queueSyncCommand process choice.now posted context store).1
      = .answered 202 posted true cursor runId := Except.ok.inj hanswer
  unfold queueSyncCommand at hresponse
  split_ifs at hresponse
  dsimp only at hresponse
  split at hresponse
  · injection hresponse with _ _ _ hcursor
    exact hcursor.symm
  · injection hresponse with hstatus
    exact absurd hstatus (by decide)

theorem parsed_of_format {sequence : Nat} {parsed : Option Nat} {reset : Bool}
    (hparse : parseMessageCursor process (some (formatMessageCursor process sequence)) = some (parsed, reset)) :
    parsed = some sequence ∧ reset = false := by
  rw [parseMessageCursor_format] at hparse
  split_ifs at hparse
  obtain ⟨rfl, rfl⟩ := Prod.mk.inj (Option.some.inj hparse)
  exact ⟨rfl, rfl⟩

theorem cursor_past_terminal (hrun : (bridge process).run (.initial .initial) moves = some config)
    (hsyncing : (config.store.latches kind).state = .syncing)
    (hissued : (view, command) ∈ System.issued config move) (hterminal : message ∈ command.terminal config.store kind)
    (hmove : (bridge process).move config move = some released)
    (hlater : (bridge process).run released later = some before)
    (hanswer : (exec process before.store choice (.queueSync posted context)).1
      = .ok (.answered 202 posted true cursor runId)) :
    ∃ position, (position, message) ∈ released.store.messages.entries ∧
      ∃ sequence : Nat, cursor = formatMessageCursor process sequence ∧ position ≤ sequence ∧
        (∀ parsed reset, parseMessageCursor process (some cursor) = some (parsed, reset) →
          parsed = some sequence ∧ reset = false) ∧
        ∀ messages endpointId events, ∀ read ∈ followReads endpointId messages sequence events,
          ∀ entry ∈ selectedBy endpointId read, position < entry.1 := by
  obtain ⟨index, choice', resume, -, -, rfl⟩ := System.move_of_issued hissued hmove
  have hentry : (config.store.messages.last + 1, message) ∈ (exec process config.store choice' command).2.messages.entries :=
    mem_entries_of_terminal (reached_run hrun).coherent hsyncing hterminal
  have hcursor := cursor_of_accepted hanswer
  have hposition : config.store.messages.last + 1 ≤ before.store.messages.last :=
    (mem_bounds hentry).2.trans (extends_run hlater).last
  refine ⟨_, hentry, before.store.messages.last, hcursor, hposition, ?_, ?_⟩
  · intro parsed reset hparse
    exact parsed_of_format (hcursor ▸ hparse)
  · intro messages endpointId events read hread entry hselected
    rw [followReads_eq_follow] at hread
    rw [selectedBy_eq_page] at hselected
    have hstart := position_le_of_mem_follow hread
    have hafter := (mem_of_mem_page hselected).2.2
    omega

/-- After the terminal there is another post, up to the critical section that accepts it. -/
def postAgain : List (Move Actor Choice) := .start (.post "devices" 1) :: List.replicate 5 (.step 2 calm)

def sampleContext : DispatchContext := ⟨(1, "id"), some ⟨1, "id", "aaaaaaaa"⟩, true⟩

theorem postAgain_accepted :
    (((bridge sampleProcess).run (.initial .initial) (postCorrelated ++ relayDevices)).bind fun config =>
      (System.issued config relayStep).bind fun issued =>
        ((bridge sampleProcess).move config relayStep).bind fun released =>
          ((bridge sampleProcess).run released postAgain).map fun before =>
            ((config.store.latches .devices).state, issued.2.terminal config.store .devices,
              (exec sampleProcess before.store calm (.queueSync .devices sampleContext)).1))
      = some (.syncing, some (1, deviceTerminal.text),
          .ok (.answered 202 .devices true "0123456789abcdef.1" (some "aaaaaaaaaa"))) := by
  decide +kernel

theorem cursor_past_deviceTerminal :
    ∃ config, (bridge sampleProcess).run (.initial .initial) (postCorrelated ++ relayDevices) = some config ∧
      ∃ released, (bridge sampleProcess).move config relayStep = some released ∧
        ∃ position, (position, 1, deviceTerminal.text) ∈ released.store.messages.entries ∧
          ∃ sequence : Nat, "0123456789abcdef.1" = formatMessageCursor sampleProcess sequence ∧ position ≤ sequence := by
  obtain ⟨config, hrun, haccepted⟩ := Option.bind_eq_some_iff.1 postAgain_accepted
  obtain ⟨⟨view, command⟩, hissued, haccepted⟩ := Option.bind_eq_some_iff.1 haccepted
  obtain ⟨released, hmove, haccepted⟩ := Option.bind_eq_some_iff.1 haccepted
  obtain ⟨before, hlater, haccepted⟩ := Option.map_eq_some_iff.1 haccepted
  obtain ⟨hsyncing, haccepted⟩ := Prod.mk.inj haccepted
  obtain ⟨hterminal, hanswer⟩ := Prod.mk.inj haccepted
  obtain ⟨position, hentry, sequence, hcursor, hposition, -⟩ :=
    cursor_past_terminal hrun hsyncing hissued hterminal hmove hlater hanswer
  exact ⟨config, hrun, released, hmove, position, hentry, sequence, hcursor, hposition⟩

end Cursors

end Proxbox.WebSocket
