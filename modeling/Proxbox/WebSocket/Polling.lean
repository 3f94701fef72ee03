import Proxbox.WebSocket.Hub
/-!
# Polling the message buffer

A poll passes the sequence number it has read up to and gets the messages of one endpoint that follow. The law
of the cursor is that of a reader of a bounded log: `readMessagesAfter` is such a read, with the endpoint's
messages as the own entries.
-/

namespace Proxbox.WebSocket

open Python BoundedLog

structure MessagePage where
  messages : List String
  nextSequence : Int
  gap : Bool
  deriving DecidableEq

/-- The entries a page is made of. Without a cursor these are the newest. -/
def selectMessages (messages : Messages) (endpointId : Int) (after : Option Int) (limit : Nat) :
    List (Nat × Message) :=
  let own := messages.entries.filter fun entry => entry.2.1 = endpointId
  match after with
  | none => own.drop (own.length - limit)
  | some after => (own.filter fun entry => after < entry.1).take limit

def readMessagesAfter (messages : Messages) (endpointId : Int) (after : Option Int) (limit : Nat) : MessagePage :=
  let selected := selectMessages messages endpointId after limit
  let oldest : Nat := match messages.entries with
    | [] => messages.last + 1
    | entry :: _ => entry.1
  { messages := selected.map fun entry => entry.2.2
    nextSequence := match selected.getLast? with
      | some entry => entry.1
      | none => match after with
        | none => messages.last
        | some after => max after 0
    gap := match after with
      | none => false
      | some after => after < (oldest : Int) - 1 }

def messagePageSize : Nat := 20

/-! ### The texts of cursors -/

/-- The sequence of `_CURSOR_RE`, after the generation and the dot. -/
def cursorSequence (digits : List Char) : Option Nat :=
  if digits.all Char.isDigit ∧ 1 ≤ digits.length ∧ digits.length ≤ 18 then some (Nat.ofDigitChars 10 digits 0) else none

/-- `parse_message_cursor`: the sequence, and whether the cursor is of another process; `none` if it is
malformed. -/
def parseMessageCursor (process : Process) (raw : Option String) : Option (Option Nat × Bool) :=
  match raw with
  | none => some (none, false)
  | some raw =>
    if raw = "" then some (none, false)
    else
      let text := (strip raw).toList
      match text.drop 16 with
      | '.' :: digits =>
        if (text.take 16).all isLowerHex then
          (cursorSequence digits).map fun sequence =>
            if String.ofList (text.take 16) ≠ process.generation then (none, true) else (some sequence, false)
        else none
      | _ => none

/-! ### The law of the cursor -/

def followReads (endpointId : Int) : Messages → Int → List (BoundedLog.Event Message) → List (Read Message messageBufferSize)
  | _, _, [] => []
  | messages, after, .append message :: events => followReads endpointId (messages.append message) after events
  | messages, after, .read limit :: events =>
    ⟨messages, after, limit⟩ ::
      followReads endpointId messages (readMessagesAfter messages endpointId (some after) limit).nextSequence events

def followedTo (endpointId : Int) : Messages → Int → List (BoundedLog.Event Message) → Int
  | _, after, [] => after
  | messages, after, .append message :: events => followedTo endpointId (messages.append message) after events
  | messages, after, .read limit :: events =>
    followedTo endpointId messages (readMessagesAfter messages endpointId (some after) limit).nextSequence events

def selectedBy (endpointId : Int) (read : Read Message messageBufferSize) : List (Nat × Message) :=
  selectMessages read.log endpointId (some read.position) read.limit

def pageOf (endpointId : Int) (read : Read Message messageBufferSize) : MessagePage :=
  readMessagesAfter read.log endpointId (some read.position) read.limit

/-- What a client that follows the returned positions from `after` gets. -/
structure FollowsCursor (endpointId : Int) (messages : Messages) (after : Int) (events : List (BoundedLog.Event Message)) :
    Prop where
  /-- The pages are texts of the selected entries, and over all reads these are in order and without repetition. -/
  pages : ∀ read ∈ followReads endpointId messages after events,
    (pageOf endpointId read).messages = (selectedBy endpointId read).map fun entry => entry.2.2
  ordered : ((followReads endpointId messages after events).flatMap (selectedBy endpointId)).Pairwise
    fun earlier later => earlier.1 < later.1
  /-- Nothing else is returned: no message at or before the cursor, and none of another endpoint. -/
  sound : ∀ read ∈ followReads endpointId messages after events, ∀ entry ∈ selectedBy endpointId read,
    after < entry.1 ∧ entry.2.1 = endpointId ∧ entry ∈ messages.entries ++ appended messages.last events
  /-- A read leaves out messages beyond a full page, which the next position still lies before, and those
  evicted, being older than all that is kept, for which it reports a gap. -/
  left : ∀ read ∈ followReads endpointId messages after events,
    ∀ entry ∈ messages.entries ++ appended messages.last events, entry.2.1 = endpointId → read.position < entry.1 →
      entry.1 ≤ read.log.last →
      entry ∈ selectedBy endpointId read ∨
        (selectedBy endpointId read).length = read.limit ∧ (pageOf endpointId read).nextSequence < entry.1 ∨
        entry.1 < read.log.oldest ∧ (pageOf endpointId read).gap = true
  /-- Every message of the endpoint the client has passed was returned, or evicted before a read that reported a
  gap. -/
  complete : ∀ entry ∈ messages.entries ++ appended messages.last events, entry.2.1 = endpointId → after < entry.1 →
    entry.1 ≤ followedTo endpointId messages after events →
      (∃ read ∈ followReads endpointId messages after events, entry ∈ selectedBy endpointId read) ∨
        ∃ read ∈ followReads endpointId messages after events,
          entry.1 < read.log.oldest ∧ (pageOf endpointId read).gap = true

section Law

variable {endpointId after : Int} {messages : Messages} {limit : Nat} {events : List (BoundedLog.Event Message)}

def ownMessage (endpointId : Int) (message : Message) : Bool := message.1 = endpointId

theorem selectMessages_eq_page :
    selectMessages messages endpointId (some after) limit = messages.page (ownMessage endpointId) after limit := rfl

theorem nextSequence_eq_next : (readMessagesAfter messages endpointId (some after) limit).nextSequence
    = next after (messages.page (ownMessage endpointId) after limit) := by
  simp only [readMessagesAfter, next, selectMessages_eq_page]
  cases (messages.page (ownMessage endpointId) after limit).getLast? <;> rfl

theorem gap_eq_gap : (readMessagesAfter messages endpointId (some after) limit).gap = messages.gap after := by
  simp only [readMessagesAfter, gap]
  cases hentries : messages.entries with
  | nil => rw [oldest, hentries, List.length_nil, Nat.sub_zero]
  | cons entry rest => rw [oldest_of_cons hentries]

theorem selectedBy_eq_page (endpointId : Int) : selectedBy endpointId = Read.page (ownMessage endpointId) := by
  funext read
  exact selectMessages_eq_page

theorem pageOf_nextSequence (read : Read Message messageBufferSize) :
    (pageOf endpointId read).nextSequence = next read.position (read.page (ownMessage endpointId)) :=
  nextSequence_eq_next

theorem followReads_eq_follow :
    followReads endpointId messages after events = follow (ownMessage endpointId) messages after events := by
  induction events generalizing messages after with
  | nil => rfl
  | cons event events ih =>
    cases event with
    | append message => exact ih
    | read limit =>
      rw [follow, ← nextSequence_eq_next, ← ih]
      rfl

theorem followedTo_eq_reached :
    followedTo endpointId messages after events = reached (ownMessage endpointId) messages after events := by
  induction events generalizing messages after with
  | nil => rfl
  | cons event events ih =>
    cases event with
    | append message => exact ih
    | read limit =>
      rw [reached, ← nextSequence_eq_next, ← ih]
      rfl

end Law

theorem followReads_followsCursor (endpointId : Int) (messages : Messages) (after : Int)
    (events : List (BoundedLog.Event Message)) : FollowsCursor endpointId messages after events := by
  have hown {entry : Nat × Message} : ownMessage endpointId entry.2 = true ↔ entry.2.1 = endpointId :=
    decide_eq_true_iff
  constructor
  case pages =>
    intro read _
    rfl
  case ordered =>
    rw [followReads_eq_follow, selectedBy_eq_page]
    exact pairwise_follow
  case sound =>
    intro read hread entry hentry
    rw [followReads_eq_follow] at hread
    rw [selectedBy_eq_page] at hentry
    obtain ⟨hkept, hmine, hafter⟩ := mem_of_mem_page hentry
    have hstart := position_le_of_mem_follow hread
    exact ⟨by omega, hown.1 hmine, mem_of_mem_follow hread hkept⟩
  case left =>
    intro read hread entry hentry hendpoint hafter hbefore
    rw [followReads_eq_follow] at hread
    rw [selectedBy_eq_page, pageOf_nextSequence]
    rcases mem_read_or (covers_entries messages) hread hentry hbefore (hown.2 hendpoint) hafter
      with hpage | hfull | ⟨hevicted, hgap⟩
    · exact .inl hpage
    · exact .inr (.inl hfull)
    · exact .inr (.inr ⟨hevicted, gap_eq_gap.trans hgap⟩)
  case complete =>
    intro entry hentry hendpoint hafter hpassed
    rw [followedTo_eq_reached] at hpassed
    rw [followReads_eq_follow, selectedBy_eq_page]
    rcases follow_complete (covers_entries messages) hentry (hown.2 hendpoint) hafter hpassed
      with hpage | ⟨read, hread, hevicted, hgap⟩
    · exact .inl hpage
    · exact .inr ⟨read, hread, hevicted, gap_eq_gap.trans hgap⟩

end Proxbox.WebSocket
