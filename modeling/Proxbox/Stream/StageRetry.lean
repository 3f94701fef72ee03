import Proxbox.Stream.Client
/-!
# The retry loop of a stage

`_execute_stage_sync`: a stage is one run of the sync-stream client, repeated while its failure looks like one
that passes. Which failures those are is read off the status and the text of the cause; what the stage reports
names the first failure that the backend itself answered with.
-/

namespace Proxbox

open Python

/-! ### The cause of a failure -/

def transportFailureMarkers : List String :=
  ["timed out", "timeout error", "timeouterror", "read timeout", "readtimeout", "connecttimeout", "connectiontimeout",
    "pooltimeout", "writetimeout", "gateway timeout", "gateway time-out", "connection refused", "connection reset",
    "connection aborted", "connection error", "cannot connect", "bad gateway", "server disconnected", "temporarily unavailable",
    "service unavailable", "network is unreachable", "name or service not known", "temporary failure in name resolution",
    "nodename nor servname provided", "failed to resolve", "max retries exceeded", "eof occurred in violation of protocol",
    "remote end closed connection"]

def transportAttributionMarkers : List String :=
  ["tls error", "tls stream open failure", "ssl error", "sslerror", "certificate verify failed",
    "eof occurred in violation of protocol", "ended without a complete event"]

def errorCauseKeys : List String := ["python_exception", "exception", "detail", "message", "error"]

def nestedCauseKeys : List String := errorCauseKeys ++ ["msg"]

def strippedText : Json → Option String
  | .str s => if strip s = "" then none else some (strip s)
  | _ => none

def firstErrorText : List Json → Option String
  | [] => none
  | .obj fields :: rest =>
    (strippedText ((Fields.get fields "detail").or (Fields.get fields "message"))).or (firstErrorText rest)
  | _ :: rest => firstErrorText rest

def extractBackendErrorText (payload : Fields) : Option String :=
  (combineBackendMessageAndDetail payload false).or ((strippedText (payload.get "error")).or
    (match payload.get "errors" with
      | .arr errors => firstErrorText errors
      | _ => none))

/-- `_iter_cause_strings`, so many levels deep. -/
def iterCauseStrings : Nat → Json → List String
  | 0, _ => []
  | _ + 1, .str s => [s]
  | levels + 1, .arr items => items.flatMap (iterCauseStrings levels)
  | levels + 1, .obj fields => nestedCauseKeys.flatMap fun key => (fields.lookup key).toList.flatMap (iterCauseStrings levels)
  | _ + 1, _ => []

/-- The values on the levels up to `_CAUSE_RECURSION_LIMIT`. -/
def causeLevels : Nat := 5

def lowered (text : String) : String := String.ofList (text.toList.flatMap lowerChar)

def namesAny (markers : List String) (text : String) : Bool := markers.any fun marker => contains marker (lowered text)

def namesTransportFailure (payload : Fields) : Bool :=
  let causes := errorCauseKeys.flatMap fun key => (payload.lookup key).toList.flatMap (iterCauseStrings causeLevels)
  namesAny transportFailureMarkers (" ".intercalate ((extractBackendErrorText payload).getD "" :: causes))

def namesTransportAttribution (payload : Fields) : Bool :=
  namesAny transportAttributionMarkers ((extractBackendErrorText payload).getD "")

def isRetryableStageFailure (status : Nat) (payload : Fields) : Bool :=
  if 500 ≤ status ∨ status = 429 then true
  else if status ≠ 400 then false
  else namesTransportFailure payload

def stampedKind : Json → Option FailureKind
  | .str s => [FailureKind.transport, FailureKind.application].find? fun kind => kind.text = s
  | _ => none

def classifyStageFailure (status : Nat) (payload : Fields) : FailureKind :=
  match stampedKind (payload.get "failure_kind") with
  | some kind => kind
  | none =>
    if (payload.lookup "response").isSome then .application
    else if namesTransportFailure payload || namesTransportAttribution payload then .transport
    else if status ∈ [502, 503, 504] then .transport
    else .application

/-! ### The report of a failed stage -/

/-- `_StageFailureAttempt` without its time. -/
structure StageFailureAttempt where
  attemptIndex : Nat
  status : Nat
  detail : String
  classification : FailureKind
  payload : Fields

def stageFailureAttempt (index status : Nat) (payload : Fields) : StageFailureAttempt where
  attemptIndex := index + 1
  status := status
  detail := (extractBackendErrorText payload).getD (Json.obj payload).text
  classification := classifyStageFailure status payload
  payload := payload

section Report

variable (codec : StreamCodec)

/-- `_coerce_backend_error_payload` of a text. -/
def coerceBackendErrorPayload (text : String) : Option Fields :=
  if (strip text).toList.head? = some openBrace then match codec.loads (strip text) with
    | some (.obj fields) => some fields
    | _ => none
  else none

def postgresSlotMarker : String := "remaining connection slots are reserved for roles with the superuser attribute"

def formatStageSyncError (syncType : String) (status : Nat) (payload : Fields) : String :=
  let rawText := (extractBackendErrorText payload).getD s!"HTTP {status}"
  -- an empty object is no payload
  let sourcePayload := ((coerceBackendErrorPayload codec rawText).filter fun fields => !fields.isEmpty).getD payload
  let rawText := (strippedText (sourcePayload.get "error")).getD rawText
  let start := "Stage '" ++ syncType ++ s!"' failed (HTTP {status}): "
  if contains postgresSlotMarker (lowered rawText) then
    start ++ "NetBox database is overloaded and has no free PostgreSQL connections for this sync. " ++
      "Wait for running jobs to finish, then retry. " ++
      "If this keeps happening, increase PostgreSQL connection capacity or reduce concurrent sync jobs."
  else match strippedText (sourcePayload.get "exception") with
    | some exceptionName => start ++ rawText ++ " (" ++ exceptionName ++ ")"
    | none => start ++ rawText

def primaryStageFailureAttempt (attempts : List StageFailureAttempt) : Option StageFailureAttempt :=
  (attempts.find? fun attempt => attempt.classification = .application).or attempts.getLast?

def truncateStageAttemptDetail (detail : String) : String :=
  if detail.length ≤ 200 then detail else String.ofList (detail.toList.take 197) ++ "..."

def sameSignature (left right : StageFailureAttempt) : Bool :=
  left.status == right.status && left.detail == right.detail && left.classification == right.classification

/-- `_compose_stage_failure_message`; without a failed attempt there is nothing to report. -/
def composeStageFailureMessage (syncType : String) (attempts : List StageFailureAttempt) : String :=
  match primaryStageFailureAttempt attempts with
  | none => "At least one failed stage attempt is required"
  | some primary =>
    let message := formatStageSyncError codec syncType primary.status primary.payload
    if attempts.all (sameSignature primary) then message
    else "\n".intercalate (message :: (attempts.filter fun attempt => attempt.attemptIndex ≠ primary.attemptIndex).map
      fun attempt => s!"Attempt {attempt.attemptIndex}: HTTP {attempt.status} — " ++ truncateStageAttemptDetail attempt.detail)

end Report

/-! ### The loop -/

/-- One run of the client, with what it did. -/
structure StageAttempt where
  result : RunResult
  trace : Trace

/-- The outside of a stage, after the attempts so far: the deadline, and what the client meets. -/
structure StageWorld where
  client : List StageAttempt → ClientWorld
  outOfTime : List StageAttempt → Bool
  noTimeToRetry : List StageAttempt → Bool

structure StageCall where
  syncType : String
  streamPath : String
  endpointId : Option Int
  preflightHint : Option String

inductive StageOutcome where
  | completed (payload : Fields)
  | failed (message : String)
  | raised

section Loop

variable (isAlnum : Char → Bool) (codec : StreamCodec) (world : StageWorld) (call : StageCall)

variable (attempts : List StageAttempt)

/-- The client's run after these attempts. Two rounds suffice it. -/
def nextAttempt : StageAttempt :=
  let run := runSyncStream isAlnum codec (world.client attempts) call.streamPath call.endpointId 2
  ⟨run.1.getD .raised, run.2⟩

def failedAttempts : List StageFailureAttempt :=
  attempts.zipIdx.filterMap fun (attempt, index) => match attempt.result with
    | .returned payload status => if 400 ≤ status then some (stageFailureAttempt index status payload) else none
    | .raised => none

def stageFailure : StageOutcome :=
  let message := composeStageFailureMessage codec call.syncType (failedAttempts attempts)
  .failed (match call.preflightHint with
    | none => message
    | some hint => if hint = "" then message else message ++ " " ++ hint)

inductive AttemptVerdict where
  | completed (payload : Fields)
  | again
  | givenUp
  | raised

def attemptVerdict : RunResult → AttemptVerdict
  | .raised => .raised
  | .returned payload status =>
    if status < 400 then .completed payload
    else if isRetryableStageFailure status payload then .again
    else .givenUp

/-- The attempts of `_execute_stage_sync`, with so many retries left. -/
def stageAttempts (retries : Nat) (attempts : List StageAttempt) : StageOutcome × List StageAttempt :=
  if world.outOfTime attempts then (.failed "Job deadline reached before the stage could finish.", attempts)
  else
    let attempt := nextAttempt isAlnum codec world call attempts
    let attempts := attempts ++ [attempt]
    match attemptVerdict attempt.result, retries with
    | .completed payload, _ => (.completed payload, attempts)
    | .raised, _ => (.raised, attempts)
    | .givenUp, _ => (stageFailure codec call attempts, attempts)
    | .again, 0 => (stageFailure codec call attempts, attempts)
    | .again, retries + 1 =>
      if world.noTimeToRetry attempts then (.failed "Job deadline reached before the stage could be retried.", attempts)
      else stageAttempts retries attempts

def stageRetryMax : Nat := 2

def executeStageSync : StageOutcome × List StageAttempt := stageAttempts isAlnum codec world call stageRetryMax []

/-! ### What the loop does with an attempt -/

def StageAttempt.Succeeded (attempt : StageAttempt) (payload : Fields) : Prop :=
  ∃ status, attempt.result = .returned payload status ∧ status < 400

/-- The attempts that the loop adds to those before, with its outcome. -/
inductive Attempts : List StageAttempt → StageOutcome → List StageAttempt → Prop where
  | late (before : List StageAttempt) (message : String) : Attempts before (.failed message) []
  | completed {before : List StageAttempt} {payload : Fields}
      (hsucceeded : (nextAttempt isAlnum codec world call before).Succeeded payload) :
      Attempts before (.completed payload) [nextAttempt isAlnum codec world call before]
  | ended {before : List StageAttempt} {outcome : StageOutcome}
      (hfailed : ∀ payload, ¬(nextAttempt isAlnum codec world call before).Succeeded payload)
      (houtcome : ∀ payload, outcome ≠ .completed payload) :
      Attempts before outcome [nextAttempt isAlnum codec world call before]
  | retried {before : List StageAttempt} {outcome : StageOutcome} {later : List StageAttempt}
      (hfailed : ∀ payload, ¬(nextAttempt isAlnum codec world call before).Succeeded payload)
      (hlater : Attempts (before ++ [nextAttempt isAlnum codec world call before]) outcome later) :
      Attempts before outcome (nextAttempt isAlnum codec world call before :: later)

variable {isAlnum codec world call}

theorem StageAttempt.Succeeded.verdict {attempt : StageAttempt} {payload : Fields} (h : attempt.Succeeded payload) :
    attemptVerdict attempt.result = .completed payload := by
  obtain ⟨status, hresult, hstatus⟩ := h
  rw [hresult, attemptVerdict, if_pos hstatus]

theorem succeeded_of_verdict {attempt : StageAttempt} {payload : Fields}
    (h : attemptVerdict attempt.result = .completed payload) : attempt.Succeeded payload := by
  unfold attemptVerdict at h
  split at h
  · cases h
  · rename_i other status hresult
    split_ifs at h with hstatus
    obtain rfl := AttemptVerdict.completed.inj h
    exact ⟨status, hresult, hstatus⟩

theorem stageAttempts_spec (retries : Nat) (before : List StageAttempt) : ∃ added,
    (stageAttempts isAlnum codec world call retries before).2 = before ++ added ∧
      Attempts isAlnum codec world call before (stageAttempts isAlnum codec world call retries before).1 added := by
  fun_induction stageAttempts isAlnum codec world call retries before with
  | case1 retries before hlate => exact ⟨[], (List.append_nil _).symm, .late _ _⟩
  | case2 retries before hlate attempt attempts payload hverdict => exact ⟨_, rfl, .completed (succeeded_of_verdict hverdict)⟩
  | case3 retries before hlate attempt attempts hverdict =>
    exact ⟨_, rfl, .ended (fun _ h => by cases h.verdict.symm.trans hverdict) fun _ h => by cases h⟩
  | case4 retries before hlate attempt attempts hverdict =>
    exact ⟨_, rfl, .ended (fun _ h => by cases h.verdict.symm.trans hverdict) fun _ h => by cases h⟩
  | case5 before hlate attempt attempts hverdict =>
    exact ⟨_, rfl, .ended (fun _ h => by cases h.verdict.symm.trans hverdict) fun _ h => by cases h⟩
  | case6 before hlate attempt attempts retries hverdict hnoTime =>
    exact ⟨_, rfl, .ended (fun _ h => by cases h.verdict.symm.trans hverdict) fun _ h => by cases h⟩
  | case7 before hlate attempt attempts retries hverdict hnoTime ih =>
    obtain ⟨later, hadded, hlater⟩ := ih
    refine ⟨attempt :: later, ?_, .retried (fun _ h => by cases h.verdict.symm.trans hverdict) hlater⟩
    rw [hadded, List.append_assoc]
    rfl

theorem eq_of_append_eq_singleton {x y : StageAttempt} {xs ys : List StageAttempt} (h : [x] = xs ++ y :: ys) :
    xs = [] ∧ y = x ∧ ys = [] := by
  obtain ⟨hxs, hrest⟩ | ⟨-, hrest⟩ := List.append_eq_singleton_iff.1 h.symm
  · obtain ⟨hy, hys⟩ := List.cons.inj hrest
    exact ⟨hxs, hy, hys⟩
  · cases hrest

theorem Attempts.attempt {before : List StageAttempt} {outcome : StageOutcome} {added : List StageAttempt}
    (h : Attempts isAlnum codec world call before outcome added) (done : List StageAttempt) (attempt : StageAttempt)
    (later : List StageAttempt) (hadded : added = done ++ attempt :: later) :
    attempt = nextAttempt isAlnum codec world call (before ++ done) ∧
      (∀ payload, attempt.Succeeded payload → later = [] ∧ outcome = .completed payload) ∧
      ∀ payload, later = [] → outcome = .completed payload → attempt.Succeeded payload := by
  induction h generalizing done with
  | late before message => cases List.append_ne_nil_of_right_ne_nil done (List.cons_ne_nil attempt later) hadded.symm
  | completed hsucceeded =>
    obtain ⟨rfl, rfl, rfl⟩ := eq_of_append_eq_singleton hadded
    rw [List.append_nil]
    refine ⟨rfl, fun payload h => ⟨rfl, ?_⟩, fun payload _ houtcome => ?_⟩
    · rw [AttemptVerdict.completed.inj (h.verdict.symm.trans hsucceeded.verdict)]
    · rw [← StageOutcome.completed.inj houtcome]
      exact hsucceeded
  | ended hfailed houtcome =>
    obtain ⟨rfl, rfl, rfl⟩ := eq_of_append_eq_singleton hadded
    rw [List.append_nil]
    exact ⟨rfl, fun payload h => absurd h (hfailed payload), fun payload _ h => absurd h (houtcome payload)⟩
  | @retried before outcome rest hfailed hlater ih =>
    cases done with
    | nil =>
      obtain ⟨rfl, rfl⟩ := List.cons.inj hadded
      rw [List.append_nil]
      refine ⟨rfl, fun payload h => absurd h (hfailed payload), fun payload hnil houtcome => ?_⟩
      subst hnil houtcome
      cases hlater
    | cons first done =>
      obtain ⟨rfl, hrest⟩ := List.cons.inj hadded
      rw [List.append_cons]
      exact ih done hrest

/-- An attempt of a stage that opened the body, with the clock that it was read by. -/
structure ReadIn (isAlnum : Char → Bool) (codec : StreamCodec) (expired : Nat → Bool) (body : SseBody) (world : StageWorld)
    (call : StageCall) (done : List StageAttempt) (attempt : StageAttempt) (later : List StageAttempt) : Prop where
  attempts : (executeStageSync isAlnum codec world call).2 = done ++ attempt :: later
  body : openedBody attempt.trace = some body
  expired : (world.client done).expired attempt.trace = expired

variable {expired : Nat → Bool} {body : SseBody} {done later : List StageAttempt} {attempt : StageAttempt}

theorem ReadIn.spec (h : ReadIn isAlnum codec expired body world call done attempt later) : (∃ urls, attempt.result =
      readRun (consumeStreamResponse isAlnum codec expired call.streamPath urls body)) ∧
      (∀ payload, attempt.Succeeded payload → later = [] ∧ (executeStageSync isAlnum codec world call).1 = .completed payload) ∧
      ∀ payload, later = [] → (executeStageSync isAlnum codec world call).1 = .completed payload →
        attempt.Succeeded payload := by
  obtain ⟨added, hadded, hattempts⟩ := @stageAttempts_spec isAlnum codec world call stageRetryMax []
  have hlist : added = done ++ attempt :: later := hadded.symm.trans h.attempts
  obtain ⟨hnext, hspec⟩ := hattempts.attempt done attempt later hlist
  refine ⟨?_, hspec⟩
  have hbody := h.body
  have hexpired := h.expired
  rw [hnext] at hbody hexpired ⊢
  obtain ⟨urls, hresult⟩ := runSyncStream_opened hbody
  refine ⟨urls, ?_⟩
  show Option.getD _ _ = _
  rw [List.nil_append] at hresult hexpired ⊢
  rw [hresult, ← hexpired]
  rfl

/-! ### A finished stream decides its stage -/

/-- What a `complete` event reports. -/
def completeReport (isAlnum : Char → Bool) : Except String SseCompletePayload → Fields × Nat
  | .error message => invalidCompleteResult message
  | .ok payload => completedStreamResult isAlnum (some payload)

/-- The body has a `complete` event that can be read. -/
def Completed (codec : StreamCodec) (expired : Nat → Bool) (body : SseBody) : Prop :=
  ∃ payload, .ok payload ∈ body.completeEvents codec expired

/-- The last valid `complete` event is the outcome, and no attempt follows a successful one. Without such an
event there is no success. -/
structure StreamDecidesStage (isAlnum : Char → Bool) (codec : StreamCodec) (expired : Nat → Bool) (body : SseBody) : Prop where
  decided : Completed codec expired body → ∀ event, (body.completeEvents codec expired).getLast? = some event →
    consumeSseUntilComplete isAlnum codec expired body = some (completeReport isAlnum event)
  kept : ∀ payload, (body.completeEvents codec expired).getLast? = some (.ok payload) → payload.ok = true →
    ∀ world call done attempt later, ReadIn isAlnum codec expired body world call done attempt later →
      later = [] ∧ ∃ urls, (executeStageSync isAlnum codec world call).1 =
        .completed [("stream", .bool true), ("response", payload.dump), ("path", .str call.streamPath),
          ("requested_urls", urls)]
  unfinished : body.completeEvents codec expired = [] →
    (∀ payload status, consumeSseUntilComplete isAlnum codec expired body = some (payload, status) → 400 ≤ status) ∧
    ∀ world call done attempt later, ReadIn isAlnum codec expired body world call done attempt later → later = [] →
      ∀ payload, (executeStageSync isAlnum codec world call).1 ≠ .completed payload

/-- A body whose last `complete` event is valid ends there for the client: it is read to its end, and in time. -/
def ReadThrough (codec : StreamCodec) (expired : Nat → Bool) (body : SseBody) : Prop :=
  ∀ payload, (body.completeEvents codec expired).getLast? = some (.ok payload) →
    body.ending = .finished ∧ deadlinePassed expired (body.frames codec) 0 = false

theorem status_completedStreamResult (payload : SseCompletePayload) :
    (completedStreamResult isAlnum (some payload)).2 = if payload.ok then 200 else 503 := by
  rw [completedStreamResult]
  split_ifs <;> rfl

theorem endOutcome_eq_iff {ending : BodyEnd} {late : Bool} {payload : SseCompletePayload} :
    endOutcome isAlnum ending late (some payload) = some (completedStreamResult isAlnum (some payload)) ↔
      ending = .finished ∧ late = false := by
  have hstatus := @status_completedStreamResult isAlnum payload
  constructor
  · intro h
    cases late with
    | true =>
      rw [← Option.some.inj h] at hstatus
      split_ifs at hstatus <;> cases hstatus
    | false =>
      cases ending with
      | finished => exact ⟨rfl, rfl⟩
      | requestException detail =>
        rw [← Option.some.inj h] at hstatus
        split_ifs at hstatus <;> cases hstatus
      | raised => cases h
  · intro ⟨hending, hlate⟩
    rw [hending, hlate]
    rfl

theorem status_of_no_complete {ending : BodyEnd} {late : Bool} {payload : Fields} {status : Nat}
    (h : endOutcome isAlnum ending late none = some (payload, status)) : 400 ≤ status := by
  unfold endOutcome at h
  split_ifs at h
  · cases h
    decide
  · cases ending with
    | finished =>
      cases h
      decide
    | requestException detail =>
      cases h
      decide
    | raised => cases h

theorem ReadIn.succeeded (h : ReadIn isAlnum codec expired body world call done attempt later) {payload : Fields}
    (hsucceeded : attempt.Succeeded payload) :
    ∃ read status, consumeSseUntilComplete isAlnum codec expired body = some (read, status) ∧ status < 400 := by
  obtain ⟨⟨urls, hresult⟩, -⟩ := h.spec
  obtain ⟨status, hreturned, hstatus⟩ := hsucceeded
  rw [hresult, consumeStreamResponse] at hreturned
  cases hread : consumeSseUntilComplete isAlnum codec expired body with
  | none =>
    rw [hread] at hreturned
    cases hreturned
  | some answer =>
    rw [hread] at hreturned
    obtain ⟨-, rfl⟩ := RunResult.returned.inj hreturned
    exact ⟨answer.1, answer.2, rfl, hstatus⟩

theorem ReadIn.kept (h : ReadIn isAlnum codec expired body world call done attempt later) {payload : SseCompletePayload}
    (hok : payload.ok = true)
    (hread : consumeSseUntilComplete isAlnum codec expired body = some (completedStreamResult isAlnum (some payload))) :
    later = [] ∧ ∃ urls, (executeStageSync isAlnum codec world call).1 =
      .completed [("stream", .bool true), ("response", payload.dump), ("path", .str call.streamPath),
        ("requested_urls", urls)] := by
  obtain ⟨⟨urls, hresult⟩, hlast, -⟩ := h.spec
  rw [consumeStreamResponse, hread, completedStreamResult, if_pos hok] at hresult
  obtain ⟨hlater, hcompleted⟩ := hlast _ ⟨200, hresult, by decide⟩
  exact ⟨hlater, _, hcompleted⟩

theorem streamDecidesStage_iff (isAlnum : Char → Bool) (codec : StreamCodec) (expired : Nat → Bool) (body : SseBody) :
    StreamDecidesStage isAlnum codec expired body ↔ ReadThrough codec expired body := by
  have hconsume := @consumeSseUntilComplete_eq isAlnum codec expired body
  constructor
  · intro h payload hlast
    have hdecided := h.decided ⟨payload, List.mem_of_getLast? hlast⟩ _ hlast
    rw [hconsume, hlast] at hdecided
    exact endOutcome_eq_iff.1 hdecided
  · intro h
    have hreported (event : Except String SseCompletePayload)
        (hlast : (body.completeEvents codec expired).getLast? = some event) :
        consumeSseUntilComplete isAlnum codec expired body = some (completeReport isAlnum event) := by
      rw [hconsume, hlast]
      cases event with
      | error message => rfl
      | ok payload => exact endOutcome_eq_iff.2 (h payload hlast)
    refine ⟨fun _ => hreported, fun payload hlast hok world call done attempt later hin => hin.kept hok (hreported _ hlast),
      fun hnone => ?_⟩
    rw [hnone] at hconsume
    have hstatus (payload : Fields) (status : Nat)
        (hread : consumeSseUntilComplete isAlnum codec expired body = some (payload, status)) : 400 ≤ status :=
      status_of_no_complete (hconsume.symm.trans hread)
    refine ⟨hstatus, fun world call done attempt later hin hnil payload hcompleted => ?_⟩
    obtain ⟨read, status, hread, hlt⟩ := hin.succeeded (hin.spec.2.2 payload hnil hcompleted)
    exact absurd (hstatus read status hread) (Nat.not_le_of_lt hlt)

end Loop

/-! ### A connection that breaks after the sync -/

/-- The sync says that it succeeded, and the connection is reset before the body ends. -/
def resetAfterComplete : SseBody where
  lines := [some "event: complete", some "data: \x7b\"ok\": true\x7d", some ""]
  ending := .requestException "Connection reset by peer"

def okCodec : StreamCodec where
  loads _ := some (.obj [("ok", .bool true)])
  validate data := if (Fields.get data "ok").truthy then .ok ⟨true, none, [], .obj data⟩ else .error "Field required"

/-- Every attempt finds the backend ready, and its connection is reset the same way. -/
def resetWorld : StageWorld where
  client _ :=
    { resolve _ _ := some (some ⟨some 1, "main", some "https://proxbox", none, true, []⟩)
      ready _ _ := some (true, "")
      request _ _ _ := .response 200 none none resetAfterComplete
      authenticate _ _ := some true
      outOfTime _ := false
      expired _ _ := false }
  outOfTime _ := false
  noTimeToRetry _ := false

def devicesCall : StageCall := ⟨"devices", "dcim/devices/create/stream", none, none⟩

def StageOutcome.isCompleted : StageOutcome → Bool
  | .completed _ => true
  | _ => false

/-- A successful sync is started three times, and its stage fails. -/
theorem complete_then_reset_is_rerun :
    (resetAfterComplete.completeEvents okCodec fun _ => false).map (fun event => event.toOption.map SseCompletePayload.ok) =
        [some true] ∧
      (executeStageSync (fun _ => false) okCodec resetWorld ⟨"devices", "dcim/devices/create/stream", none, none⟩).2.map
        (fun attempt => requestedUrls attempt.trace) = List.replicate 3 ["https://proxbox/dcim/devices/create/stream"] ∧
      (executeStageSync (fun _ => false) okCodec resetWorld
        ⟨"devices", "dcim/devices/create/stream", none, none⟩).1.isCompleted = false := by
  decide +kernel

end Proxbox
