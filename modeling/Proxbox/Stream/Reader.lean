import Proxbox.Redaction.StreamDetail
/-!
# Reading a sync stream

The server-sent events of a sync stream: lines are gathered into frames, frames are read until the body ends,
and the last `complete` event says how the sync went. A body that breaks off, a `complete` event that cannot be
read and the deadline of the job end the reading too.
-/

namespace Proxbox

open Python

/-! ### Frames -/

structure SseFrame where
  event : String
  data : Fields

/-- `SseCompletePayload` as far as it is read, with its `model_dump`. -/
structure SseCompletePayload where
  ok : Bool
  message : Option String
  errors : List Fields
  dump : Json

/-- `json.loads`, and the validation of a `complete` event with the message of its first error. -/
structure StreamCodec where
  loads : String → Option Json
  validate : Fields → Except String SseCompletePayload

/-- What `_iter_sse_frames` has gathered of the next frame. -/
structure FrameBuffer where
  eventName : String
  dataLines : List String

def FrameBuffer.empty : FrameBuffer := ⟨"", []⟩

def lstrip (s : String) : String := String.ofList (s.toList.dropWhile isSpace)

def startsWith (s start : String) : Bool := start.toList.isPrefixOf s.toList

def dropStart (n : Nat) (s : String) : String := String.ofList (s.toList.drop n)

section Frames

variable (codec : StreamCodec)

variable (buffer : FrameBuffer)

def FrameBuffer.flush : List SseFrame :=
  if buffer.dataLines.isEmpty then []
  else
    let payload := "\n".intercalate buffer.dataLines
    [{ event := if buffer.eventName = "" then "message" else buffer.eventName
       data := match codec.loads payload with
         | none => [("raw", .str payload)]
         | some (.obj fields) => fields
         | some other => [("raw", other)] }]

/-- One line: the frames it completes, and what is gathered after it. -/
def FrameBuffer.feed (line : String) : List SseFrame × FrameBuffer :=
  if line = "" then (buffer.flush codec, .empty)
  else if startsWith line ":" then ([], buffer)
  else if startsWith line "event:" then (buffer.flush codec, ⟨strip (dropStart 6 line), []⟩)
  else if startsWith line "data:" then ([], { buffer with dataLines := buffer.dataLines ++ [lstrip (dropStart 5 line)] })
  else ([], { buffer with dataLines := buffer.dataLines ++ [line] })

/-- `_iter_sse_frames` over the lines that arrive; the rest of the buffer is a frame only when the body ends
well. -/
def iterSseFrames (endsWell : Bool) : FrameBuffer → List (Option String) → List SseFrame
  | buffer, [] => if endsWell then buffer.flush codec else []
  | buffer, none :: rest => iterSseFrames endsWell buffer rest
  | buffer, some line :: rest =>
    let (frames, buffer) := buffer.feed codec line
    frames ++ iterSseFrames endsWell buffer rest

end Frames

/-! ### Bodies -/

/-- How the lines of a body end. An exception of the frame callback ends them as well. -/
inductive BodyEnd where
  | finished
  | requestException (detail : String)
  | raised

structure SseBody where
  lines : List (Option String)
  ending : BodyEnd

def BodyEnd.endsWell : BodyEnd → Bool
  | .finished => true
  | _ => false

def SseBody.frames (codec : StreamCodec) (body : SseBody) : List SseFrame :=
  iterSseFrames codec body.ending.endsWell .empty body.lines

def FailureKind.text : FailureKind → String
  | .transport => "transport"
  | .application => "application"

def failedStream (detail : String) (kind : FailureKind) : Fields :=
  [("stream", .bool true), ("detail", .str detail), ("failure_kind", .str kind.text)]

section Reader

variable (isAlnum : Char → Bool) (codec : StreamCodec)

def failureMessage (payload : SseCompletePayload) : String :=
  let message := match payload.message with
    | none => "Sync failed."
    | some text => if text = "" then "Sync failed." else text
  match payload.errors with
  | [] => redactBackendDetail isAlnum (.str message)
  | first :: _ =>
    let detail := Fields.get first "detail"
    if detail.truthy then redactBackendDetail isAlnum detail else redactBackendDetail isAlnum (.str message)

def completedStreamResult : Option SseCompletePayload → Fields × Nat
  | none => (failedStream "ProxBox backend stream ended without a complete event." .transport, 502)
  | some payload =>
    if payload.ok then ([("stream", .bool true), ("response", payload.dump)], 200)
    else ([("stream", .bool true), ("detail", .str (failureMessage isAlnum payload)), ("response", payload.dump),
      ("failure_kind", .str FailureKind.application.text)], 503)

def deadlineResult : Fields × Nat :=
  (failedStream "Job deadline reached while consuming the backend stream." .transport, 504)

def invalidCompleteResult (message : String) : Fields × Nat :=
  (failedStream ("ProxBox backend stream sent an invalid complete event: " ++ message) .application, 502)

def brokenResult (detail : String) : Fields × Nat := (failedStream detail .transport, 502)

/-- `none` when an exception goes on to the caller. Before each frame the deadline is looked at. -/
def readFrames (expired : Nat → Bool) (ending : BodyEnd) :
    List SseFrame → Nat → Option SseCompletePayload → Option (Fields × Nat)
  | [], _, lastComplete => match ending with
      | .finished => some (completedStreamResult isAlnum lastComplete)
      | .requestException detail => some (brokenResult detail)
      | .raised => none
  | frame :: rest, index, lastComplete =>
    if expired index then some deadlineResult
    else if frame.event = "complete" then match codec.validate frame.data with
      | .error message => some (invalidCompleteResult message)
      | .ok payload => readFrames expired ending rest (index + 1) (some payload)
    else readFrames expired ending rest (index + 1) lastComplete

def consumeSseUntilComplete (expired : Nat → Bool) (body : SseBody) : Option (Fields × Nat) :=
  readFrames isAlnum codec expired body.ending (body.frames codec) 0 none

def redactedMapping (payload : Fields) : Fields :=
  match redactSensitive isAlnum 0 (.obj payload) with
  | .obj fields => fields
  | other => [("detail", other)]

def consumeStreamResponse (expired : Nat → Bool) (path : String) (requestedUrls : List String) (body : SseBody) :
    Option (Fields × Nat) :=
  (consumeSseUntilComplete isAlnum codec expired body).map fun (payload, status) =>
    let payload := payload ++ [("path", .str path), ("requested_urls", .arr (requestedUrls.map .str))]
    (if 400 ≤ status then redactedMapping isAlnum payload else payload, status)

/-! ### What decides the outcome -/

def completeEvents (expired : Nat → Bool) : List SseFrame → Nat → List (Except String SseCompletePayload)
  | [], _ => []
  | frame :: rest, index =>
    if expired index then []
    else if frame.event = "complete" then match codec.validate frame.data with
      | .error message => [.error message]
      | .ok payload => .ok payload :: completeEvents expired rest (index + 1)
    else completeEvents expired rest (index + 1)

def SseBody.completeEvents (expired : Nat → Bool) (body : SseBody) : List (Except String SseCompletePayload) :=
  Proxbox.completeEvents codec expired (body.frames codec) 0

def deadlinePassed (expired : Nat → Bool) : List SseFrame → Nat → Bool
  | [], _ => false
  | _ :: rest, index => expired index || deadlinePassed expired rest (index + 1)

def endOutcome (ending : BodyEnd) (late : Bool) (lastComplete : Option SseCompletePayload) : Option (Fields × Nat) :=
  if late then some deadlineResult
  else match ending with
    | .finished => some (completedStreamResult isAlnum lastComplete)
    | .requestException detail => some (brokenResult detail)
    | .raised => none

/-- The outcome from the last `complete` event among the frames. -/
def readOutcome (ending : BodyEnd) (late : Bool) (lastComplete : Option SseCompletePayload) :
    Option (Except String SseCompletePayload) → Option (Fields × Nat)
  | some (.error message) => some (invalidCompleteResult message)
  | some (.ok payload) => endOutcome isAlnum ending late (some payload)
  | none => endOutcome isAlnum ending late lastComplete

variable {isAlnum codec} {expired : Nat → Bool} {ending : BodyEnd}

theorem readOutcome_cons {late : Bool} {payload : SseCompletePayload} {lastComplete : Option SseCompletePayload}
    (later : List (Except String SseCompletePayload)) :
    readOutcome isAlnum ending late lastComplete (.ok payload :: later).getLast? =
      readOutcome isAlnum ending late (some payload) later.getLast? := by
  rw [List.getLast?_cons]
  cases later.getLast? with
  | none => rfl
  | some event => cases event <;> rfl

theorem readFrames_eq (frames : List SseFrame) (index : Nat) (lastComplete : Option SseCompletePayload) :
    readFrames isAlnum codec expired ending frames index lastComplete =
      readOutcome isAlnum ending (deadlinePassed expired frames index) lastComplete
        (completeEvents codec expired frames index).getLast? := by
  induction frames generalizing index lastComplete with
  | nil => rfl
  | cons frame rest ih =>
    unfold readFrames completeEvents deadlinePassed
    cases hexpired : expired index with
    | true => rfl
    | false =>
      simp only [Bool.false_or, Bool.false_eq_true, if_false]
      split_ifs
      · cases codec.validate frame.data with
        | error message => rfl
        | ok payload =>
          dsimp only
          rw [readOutcome_cons, ih]
      · exact ih _ _

theorem consumeSseUntilComplete_eq (body : SseBody) :
    consumeSseUntilComplete isAlnum codec expired body =
      readOutcome isAlnum body.ending (deadlinePassed expired (body.frames codec) 0) none
        (body.completeEvents codec expired).getLast? :=
  readFrames_eq _ _ _

end Reader

end Proxbox
