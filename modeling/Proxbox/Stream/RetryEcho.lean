import Proxbox.Stream.StageRetry
/-!
# The retry and the echo of the request

A rejected request is answered with HTTP 400, and the stage is tried again when the reported cause names a
transport failure. The cause scan does not enter the `input` of a validation error, which echoes what was sent.
But the client has rendered the validation errors into one line before: whatever is left of an `input` in that
line is scanned.
-/

namespace Proxbox

open Python Regex

/-! ### A run whose request is rejected -/

section Rejected

variable (isAlnum : Char → Bool) (codec : StreamCodec) (client : ClientWorld) (retryAfter : Option String) (stream : SseBody)

variable (body : Json)

def rejectedReply : StreamReply := .response 400 retryAfter (some body) stream

/-- The same outside, where every stream request is answered with HTTP 400 and this body. -/
def rejecting : ClientWorld := { client with request := fun _ _ _ => rejectedReply retryAfter stream body }

def rejection : StreamFailure := ⟨errorReplyDetail isAlnum 400 body, some 400, .application⟩

variable (state : ClientState)

def afterRejection (context : BackendRequestContext) (url : String) (body : Json) : ClientState :=
  { state.did (.requested context url (rejectedReply retryAfter stream body)) with
    retryAfter := retryAfter.or state.retryAfter }

variable {isAlnum codec client retryAfter stream} {context : BackendRequestContext} {endpointId : Option Int} {path : String}
  {attempted : Bool}

theorem trySyncStreamUrl_rejecting (url : String) (state : ClientState) (body : Json) :
    trySyncStreamUrl isAlnum (rejecting client retryAfter stream body) context endpointId attempted url state =
      (.failed (rejection isAlnum body) none, afterRejection retryAfter stream state context url body) := by
  have hkey : namesApiKey 400 body attempted = false := by
    rw [namesApiKey, show (400 == 401) = false from rfl, Bool.and_false, Bool.false_and]
  have hcall (state : ClientState) : callStreamHttpError isAlnum (rejecting client retryAfter stream body) context endpointId
      attempted 400 retryAfter (some body) state =
        (.failed (rejection isAlnum body) none, { state with retryAfter := retryAfter.or state.retryAfter }) := by
    unfold callStreamHttpError streamHttpError
    simp only [Option.any_some, hkey, Bool.false_eq_true, if_false]
    rfl
  exact hcall _

def RejectedPass (pass : Json → CandidatePass × ClientState) : Prop :=
  (∃ result state, (result = .raised ∨ ∃ failures, result = .failures failures) ∧ state.trace.any ClientStep.isRequest = false ∧
    ∀ body, pass body = (result, state)) ∨
  ∃ failures state context url, (∀ failure ∈ failures, failure.failureKind = .transport) ∧
    ∀ body, pass body = (.failures (failures ++ [rejection isAlnum body]),
      afterRejection retryAfter stream state context url body)

def unready (message : String) : StreamFailure := ⟨"Backend not ready: " ++ message, some 503, .transport⟩

theorem tryStreamCandidates_rejecting (candidates : List (String × Bool)) (failures : List StreamFailure) (state : ClientState)
    (hfailures : ∀ failure ∈ failures, failure.failureKind = .transport)
    (hstate : state.trace.any ClientStep.isRequest = false) : @RejectedPass isAlnum retryAfter stream fun body =>
      tryStreamCandidates isAlnum codec (rejecting client retryAfter stream body) context path endpointId attempted candidates
        failures state := by
  induction candidates generalizing failures state with
  | nil => exact .inl ⟨_, state, .inr ⟨failures, rfl⟩, hstate, fun _ => rfl⟩
  | cons candidate rest ih =>
    obtain ⟨url, verify⟩ := candidate
    let state' : ClientState := { state with requestedUrls := state.requestedUrls ++ [url] }
    have hprobed (ready : Bool) (message : String) :
        (state'.did (.probed url ready message)).trace.any ClientStep.isRequest = false := by
      rw [ClientState.did, List.any_append, hstate]
      rfl
    cases hready : client.ready state'.trace (streamCandidateContext context url path verify) with
    | none =>
      refine .inl ⟨.raised, state', .inl rfl, hstate, fun body => ?_⟩
      unfold tryStreamCandidates
      dsimp only [rejecting]
      rw [hready]
    | some answer =>
      obtain ⟨ready, message⟩ := answer
      cases ready with
      | true =>
        refine .inr ⟨failures, state'.did (.probed url true message), context, url, hfailures, fun body => ?_⟩
        unfold tryStreamCandidates
        dsimp only [rejecting]
        rw [hready]
        dsimp only
        have htry := @trySyncStreamUrl_rejecting isAlnum client retryAfter stream context endpointId attempted url
          (state'.did (.probed url true message)) body
        rw [rejecting] at htry
        rw [requestCandidate, htry]
      | false =>
        have hnext : ∀ failure ∈ failures ++ [unready message],
            failure.failureKind = .transport :=
          List.forall_mem_append.2 ⟨hfailures, List.forall_mem_singleton.2 rfl⟩
        by_cases hredirect : message = readinessRedirect
        · refine .inl ⟨_, state'.did (.probed url false message), .inr ⟨failures ++ [unready message], rfl⟩,
            hprobed false message, fun body => ?_⟩
          unfold tryStreamCandidates
          dsimp only [rejecting]
          rw [hready]
          dsimp only
          rw [if_pos hredirect]
          rfl
        · have hstep (body : Json) : tryStreamCandidates isAlnum codec (rejecting client retryAfter stream body) context path
              endpointId attempted ((url, verify) :: rest) failures state =
                tryStreamCandidates isAlnum codec (rejecting client retryAfter stream body) context path endpointId attempted
                  rest (failures ++ [unready message])
                  (state'.did (.probed url false message)) := by
            rw [tryStreamCandidates]
            dsimp only [rejecting]
            rw [hready]
            dsimp only
            rw [if_neg hredirect]
            rfl
          simp only [hstep]
          exact ih _ _ hnext (hprobed false message)

def failedResult (path : String) (failures : List StreamFailure) (state : ClientState) : RunResult :=
  .returned (failedRun path failures state).1 (failedRun path failures state).2

def RejectedRun (path : String) (run : Json → Option RunResult × Trace) : Prop :=
  (∃ result trace, trace.any ClientStep.isRequest = false ∧ ∀ body, run body = (some result, trace)) ∨
  ∃ failures state context url, (∀ failure ∈ failures, failure.failureKind = .transport) ∧ ∀ body,
    let last := afterRejection retryAfter stream state context url body
    run body = (some (failedResult path (failures ++ [rejection isAlnum body]) last), last.trace)

theorem streamLoop_rejecting (rounds : Nat) (state : ClientState) (hstate : state.trace.any ClientStep.isRequest = false) :
    @RejectedRun isAlnum retryAfter stream path fun body =>
      let run := streamLoop isAlnum codec (rejecting client retryAfter stream body) path endpointId (rounds + 1)
        context attempted state
      (run.1, run.2.trace) := by
  have hpass : @RejectedPass isAlnum retryAfter stream fun body => runStreamCandidatePass isAlnum codec
      (rejecting client retryAfter stream body) context path endpointId attempted state := by
    unfold runStreamCandidatePass
    split_ifs
    · exact .inl ⟨_, state, .inr ⟨_, rfl⟩, hstate, fun _ => rfl⟩
    · exact tryStreamCandidates_rejecting _ [] state (List.forall_mem_nil _) hstate
  unfold streamLoop
  dsimp only [rejecting] at hpass ⊢
  by_cases hlate : client.outOfTime state.trace = true
  · simp only [hlate, if_true]
    exact .inl ⟨failedResult path _ state, state.trace, hstate, fun _ => rfl⟩
  · simp only [hlate, Bool.false_eq_true, if_false]
    rcases hpass with ⟨result, state', hresult, hunasked, hpass⟩ | ⟨failures, state', context', url, hfailures, hpass⟩
    · simp only [hpass]
      rcases hresult with rfl | ⟨failures, rfl⟩
      · exact .inl ⟨.raised, state'.trace, hunasked, fun _ => rfl⟩
      · exact .inl ⟨failedResult path failures state', state'.trace, hunasked, fun _ => rfl⟩
    · simp only [hpass]
      exact .inr ⟨failures, state', context', url, hfailures, fun _ => rfl⟩

theorem runSyncStream_rejecting (path : String) (endpointId : Option Int) (rounds : Nat) :
    @RejectedRun isAlnum retryAfter stream path fun body =>
      runSyncStream isAlnum codec (rejecting client retryAfter stream body) path endpointId (rounds + 1) := by
  unfold runSyncStream
  dsimp only [rejecting]
  cases hresolve : client.resolve [] endpointId with
  | none => exact .inl ⟨_, [], rfl, fun _ => rfl⟩
  | some resolved =>
    cases resolved with
    | none => exact .inl ⟨_, _, rfl, fun _ => rfl⟩
    | some context =>
      dsimp only
      split_ifs
      · exact .inl ⟨_, _, rfl, fun _ => rfl⟩
      · exact streamLoop_rejecting rounds _ rfl

/-! ### The cause that is scanned -/

variable (isAlnum codec)

def shownDetail : String :=
  if errorReplyDetail isAlnum 400 body = "" then "Unable to reach the ProxBox backend stream."
  else errorReplyDetail isAlnum 400 body

/-- The detail is scanned twice: as the text of the error and as one of its causes. -/
def scannedText (detail : String) : String := strip detail ++ " " ++ detail

variable {isAlnum}

theorem failedRun_rejection {failures : List StreamFailure} (hfailures : ∀ failure ∈ failures, failure.failureKind = .transport)
    (state : ClientState) (body : Json) : failedRun path (failures ++ [rejection isAlnum body]) state =
      ([("stream", .bool true), ("path", .str path), ("requested_urls", .arr (state.requestedUrls.map .str)),
          ("detail", .str (shownDetail isAlnum body)), ("failure_kind", .str FailureKind.application.text)] ++
        (state.retryAfter.map fun text => ("retry_after", Json.str text)).toList, 400) := by
  have hnone : failures.find? (fun failure => failure.failureKind = .application) = none := by
    refine List.find?_eq_none.2 fun failure hmem => ?_
    rw [hfailures failure hmem]
    decide
  have hselected : selectStreamFailure (failures ++ [rejection isAlnum body]) = some (rejection isAlnum body) := by
    rw [selectStreamFailure, List.find?_append, hnone]
    rfl
  rw [failedRun, hselected]
  rfl

theorem namesTransportFailure_rejection (path : String) (urls : Json) (detail kind : String) (retryAfter : Option String) :
    namesTransportFailure ([("stream", .bool true), ("path", .str path), ("requested_urls", urls), ("detail", .str detail),
        ("failure_kind", .str kind)] ++ (retryAfter.map fun text => ("retry_after", Json.str text)).toList) =
      namesAny transportFailureMarkers (scannedText detail) := by
  have htext (payload : Fields) (hmessage : payload.lookup "message" = none)
    (hdetail : payload.lookup "detail" = some (.str detail))
      (herror : payload.lookup "error" = none) (herrors : payload.lookup "errors" = none) :
      (extractBackendErrorText payload).getD "" = strip detail := by
    have hshown : detailText false (payload.get "detail") = strip detail := by
      rw [Fields.get, hdetail]
      rfl
    have hnone : messageText (payload.get "message") = "" := by
      rw [Fields.get, hmessage]
      rfl
    have hrest : strippedText (payload.get "error") = none ∧ payload.get "errors" = .null := by
      rw [Fields.get, Fields.get, herror, herrors]
      exact ⟨rfl, rfl⟩
    rw [extractBackendErrorText, combineBackendMessageAndDetail, hshown, hnone, hrest.1, hrest.2]
    by_cases hblank : strip detail = ""
    · rw [if_pos hblank, if_pos rfl, hblank]
      rfl
    · rw [if_neg hblank, if_pos (.inl rfl)]
      rfl
  unfold namesTransportFailure
  cases retryAfter with
  | none =>
    rw [htext _ rfl rfl rfl rfl]
    rfl
  | some text =>
    rw [htext _ rfl rfl rfl rfl]
    rfl

theorem attemptVerdict_rejected (payload : Fields) :
    attemptVerdict (.returned payload 400) = .again ↔ namesTransportFailure payload = true := by
  have hretryable : isRetryableStageFailure 400 payload = namesTransportFailure payload := by
    rw [isRetryableStageFailure, if_neg (by decide), if_neg (by decide)]
  rw [attemptVerdict, if_neg (Nat.lt_irrefl 400), hretryable]
  split_ifs with hnamed
  · exact iff_of_true rfl hnamed
  · exact iff_of_false (by simp) hnamed

variable (isAlnum)

/-- The stage is tried again after a run of the client against this outside. -/
def Retried (client : ClientWorld) (call : StageCall) : Prop :=
  attemptVerdict ((runSyncStream isAlnum codec client call.streamPath call.endpointId 2).1.getD .raised) = .again

/-- The run gets as far as the stream request. -/
def StageAsked (client : ClientWorld) (call : StageCall) : Prop :=
  (runSyncStream isAlnum codec client call.streamPath call.endpointId 2).2.any ClientStep.isRequest = true

variable (client retryAfter stream)

theorem retried_rejecting (call : StageCall) :
    ((∀ body, ¬ StageAsked isAlnum codec (rejecting client retryAfter stream body) call) ∧ ∀ body other,
      (Retried isAlnum codec (rejecting client retryAfter stream body) call ↔
        Retried isAlnum codec (rejecting client retryAfter stream other) call)) ∨
    ((∀ body, StageAsked isAlnum codec (rejecting client retryAfter stream body) call) ∧ ∀ body,
      (Retried isAlnum codec (rejecting client retryAfter stream body) call ↔
        namesAny transportFailureMarkers (scannedText (shownDetail isAlnum body)) = true)) := by
  have hrun := @runSyncStream_rejecting isAlnum codec client retryAfter stream call.streamPath call.endpointId 1
  rcases hrun with ⟨result, trace, hunasked, hrun⟩ | ⟨failures, state, context, url, hfailures, hrun⟩
  · dsimp only [Nat.reduceAdd] at hrun
    refine .inl ⟨fun body => ?_, fun body other => ?_⟩
    · rw [StageAsked, hrun body, hunasked]
      exact Bool.false_ne_true
    · rw [Retried, Retried, hrun body, hrun other]
  · dsimp only [Nat.reduceAdd] at hrun
    refine .inr ⟨fun body => ?_, fun body => ?_⟩
    · rw [StageAsked, hrun body]
      simp [afterRejection, ClientState.did, ClientStep.isRequest]
    · rw [Retried, hrun body]
      dsimp only [Option.getD_some]
      rw [failedResult, failedRun_rejection hfailures, attemptVerdict_rejected, namesTransportFailure_rejection]

end Rejected

/-! ### What is left of an input -/

def isInputKey (key : String) : Bool := key == "input"

/-- What a validation error echoes of the request. -/
def echoed (_ : Fields) (key : String) : Bool := isInputKey key

theorem isInputKey_sparesReport : SparesReport isInputKey where
  detail := by decide
  msg := by decide
  message := by decide

/-- An echo that the sweep cannot read as one value, with a word of the cause scan in it. -/
def markedEcho : Json := .arr [.str "'", .str "'timeouterror'"]

def markedItems : List Char := ", \"'timeouterror'\"".toList

theorem dump_markedEcho : markedEcho.dump true = mixedList markedItems [] := by decide +kernel

theorem repr_markedEcho : markedEcho.repr.toList = mixedList markedItems [] := by decide +kernel

theorem bearer_shows_space (isAlnum : Char → Bool) : (bearer isAlnum).Shows fun c => isSpace c = true :=
  .seq_right _ (.seq_right _ (.seq_left (Pattern.shows_plus fun _ h => h) _))

def markedWord : List Char := singleQuote :: ("timeouterror".toList ++ [singleQuote])

theorem marked_infix_redactSensitiveText (isAlnum : Char → Bool) {text : String}
    (h : mixedList markedItems [] <:+: text.toList) :
    markedWord <:+: (redactSensitiveText isAlnum text).toList := by
  obtain ⟨front, behind, hsplit⟩ := h
  have hlist : text.toList = front ++ mixedList markedItems behind := by
    rw [← hsplit]
    simp [mixedList]
  have hhead : ∀ c ∈ markedItems.head?, c = ',' := fun c hc => (Option.some.inj hc).symm
  have hkept := infix_redactAssignments hhead (forall_mem_of_all (by decide +kernel)) hlist
  have hword : markedWord <:+: markedItems := ⟨", \"".toList, "\"".toList, by decide +kernel⟩
  rw [redactSensitiveText, String.toList_ofList]
  exact infix_sub rfl (bearer_shows_space isAlnum) (forall_mem_of_all (by decide +kernel)) renderBearer (hword.trans hkept)

theorem namesAny_of_isInfix {markers : List String} {marker text : String} (hmarker : marker ∈ markers)
    (hlower : marker.toList.flatMap lowerChar = marker.toList) (h : marker.toList <:+: text.toList) :
    namesAny markers text = true := by
  refine List.any_eq_true.2 ⟨marker, hmarker, contains_iff_infix.2 ?_⟩
  obtain ⟨front, behind, hsplit⟩ := h
  refine ⟨front.flatMap lowerChar, behind.flatMap lowerChar, ?_⟩
  rw [lowered, String.toList_ofList, ← hsplit, List.flatMap_append, List.flatMap_append, hlower]

theorem namesAny_markedEcho (isAlnum : Char → Bool) {body : Json} (h : (renderedPart body).anyKey isInputKey = true) :
    namesAny transportFailureMarkers (scannedText (shownDetail isAlnum (fill echoed markedEcho body))) = true := by
  obtain ⟨text, hline, htext⟩ := exists_jsonErrorDetail_of_anyKey markedEcho isInputKey_sparesReport h dump_markedEcho
    repr_markedEcho
  have hne : text ≠ "" := by
    rintro rfl
    exact absurd htext.length_le (by decide)
  have hkept := marked_infix_redactSensitiveText isAlnum htext
  have hreply : errorReplyDetail isAlnum 400 (fill echoed markedEcho body) = redactSensitiveText isAlnum text :=
    errorReplyDetail_of_some isAlnum 400 hline hne
  have hshown : shownDetail isAlnum (fill echoed markedEcho body) = redactSensitiveText isAlnum text := by
    rw [shownDetail, hreply, if_neg]
    intro hempty
    rw [hempty] at hkept
    exact absurd hkept.length_le (by decide)
  have hword : "timeouterror".toList <:+: markedWord := ⟨[singleQuote], [singleQuote], rfl⟩
  rw [hshown]
  refine namesAny_of_isInfix (by decide +kernel) (by decide +kernel) (hword.trans (hkept.trans ?_))
  rw [scannedText, String.toList_append]
  exact (List.suffix_append _ _).isInfix

/-- The retry does not see an input that is not rendered. Where one is rendered, there is a reply that differs
in nothing else and makes every stage retry that gets it. -/
theorem retry_ignores_inputs (isAlnum : Char → Bool) (codec : StreamCodec) (body : Json) :
    ((renderedPart body).anyKey isInputKey = false → ∀ other, SameBut echoed body other → ∀ client retryAfter stream call,
      (Retried isAlnum codec (rejecting client retryAfter stream body) call ↔
        Retried isAlnum codec (rejecting client retryAfter stream other) call)) ∧
    ((renderedPart body).anyKey isInputKey = true → ∃ other, SameBut echoed body other ∧ ∀ client retryAfter stream call,
      StageAsked isAlnum codec (rejecting client retryAfter stream other) call →
        Retried isAlnum codec (rejecting client retryAfter stream other) call) := by
  constructor
  · intro hfree other hsame client retryAfter stream call
    have hdetail : shownDetail isAlnum body = shownDetail isAlnum other := by
      rw [shownDetail, shownDetail, errorReplyDetail, errorReplyDetail,
        jsonErrorDetail_eq_of_sameBut isInputKey_sparesReport hfree hsame]
    rcases retried_rejecting isAlnum codec client retryAfter stream call with ⟨-, hsame⟩ | ⟨-, hdecided⟩
    · exact hsame body other
    · rw [hdecided, hdecided, hdetail]
  · intro hkey
    refine ⟨fill echoed markedEcho body, (sameBut_fill (stable_of_keys isInputKey) markedEcho body).symm, ?_⟩
    intro client retryAfter stream call hasked
    rcases retried_rejecting isAlnum codec client retryAfter stream call with ⟨hunasked, -⟩ | ⟨-, hdecided⟩
    · exact absurd hasked (hunasked _)
    · exact (hdecided _).2 (namesAny_markedEcho isAlnum hkey)

def rejectedName (name : String) : Json :=
  .obj [("detail", .arr [.obj [("loc", .arr [.str "body"]), ("msg", .str "Field required"),
    ("input", .obj [("name", .str name)])]])]

def rejectedNameLine (name : String) : String :=
  "[\x7b\"input\": \x7b\"name\": \"" ++ name ++ "\"\x7d, \"loc\": [\"body\"], \"msg\": \"Field required\"\x7d]"

def rejectedNameLowered : String := "[\x7b\"input\": \x7b\"name\": \"vm1\"\x7d, \"loc\": [\"body\"], \"msg\": \"field required\"\x7d]"

/-- The name that was sent decides whether the stage is tried again. -/
theorem echoed_name_is_retried : SameBut echoed (rejectedName "timed out") (rejectedName "vm1") ∧ ∀ isAlnum codec,
    Retried isAlnum codec (rejecting (resetWorld.client []) none resetAfterComplete (rejectedName "timed out")) devicesCall ∧
      ¬ Retried isAlnum codec (rejecting (resetWorld.client []) none resetAfterComplete (rejectedName "vm1")) devicesCall := by
  refine ⟨rfl, fun isAlnum codec => ?_⟩
  have htimed := @errorReplyDetail_of_swept isAlnum 400 (rejectedName "timed out") (rejectedNameLine "timed out")
    (rejectedNameLine "timed out") (by decide) (by decide +kernel) (by decide +kernel) (by decide +kernel)
  have hplain := @errorReplyDetail_of_swept isAlnum 400 (rejectedName "vm1") (rejectedNameLine "vm1")
    (rejectedNameLine "vm1") (by decide) (by decide +kernel) (by decide +kernel) (by decide +kernel)
  have hasked : StageAsked isAlnum codec (rejecting (resetWorld.client []) none resetAfterComplete (rejectedName "vm1"))
    devicesCall :=
    rfl
  rcases retried_rejecting isAlnum codec (resetWorld.client []) none resetAfterComplete devicesCall with
    ⟨hunasked, -⟩ | ⟨-, hdecided⟩
  · exact absurd hasked (hunasked _)
  · have hlowered : lowered (scannedText (rejectedNameLine "vm1")) = rejectedNameLowered ++ " " ++ rejectedNameLowered := by
      decide +kernel
    rw [hdecided, hdecided, shownDetail, shownDetail, htimed, hplain, if_neg (by decide), if_neg (by decide)]
    refine ⟨@namesAny_of_isInfix _ "timed out" _ (by decide) (by decide) ?_, ?_⟩
    · exact ⟨"[\x7b\"input\": \x7b\"name\": \"".toList, _, rfl⟩
    · rw [namesAny, hlowered]
      decide +kernel

end Proxbox
