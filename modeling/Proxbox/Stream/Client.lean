import Proxbox.Stream.Reader
/-!
# The sync-stream client

`run_sync_stream`: the first candidate URL that is ready gets one request that starts the sync, and its body is
read to the end. A reply that rejects the API key makes the client check the stored key and start over with a
context whose binding did not change meanwhile. What the outside answers may depend on everything that happened
before.
-/

namespace Proxbox

open Python

structure BackendRequestContext where
  endpointId : Option Int
  targetFingerprint : String
  httpUrl : Option String
  ipAddressUrl : Option String
  verifySsl : Bool
  headers : List (String × String)

inductive StreamReply where
  | response (status : Nat) (retryAfter : Option String) (json : Option Json) (stream : SseBody)
  | requestException (detail : String) (status : Option Nat)
  | osError (detail : String)
  | raised

inductive ClientStep where
  | resolved (endpointId : Option Int) (context : Option BackendRequestContext)
  | probed (url : String) (ready : Bool) (message : String)
  | requested (context : BackendRequestContext) (url : String) (reply : StreamReply)
  | authenticated (context : BackendRequestContext) (accepted : Bool)

abbrev Trace := List ClientStep

/-- The outside of the client. `none` is an exception of the call. -/
structure ClientWorld where
  resolve : Trace → Option Int → Option (Option BackendRequestContext)
  ready : Trace → BackendRequestContext → Option (Bool × String)
  request : Trace → BackendRequestContext → String → StreamReply
  authenticate : Trace → BackendRequestContext → Option Bool
  outOfTime : Trace → Bool
  expired : Trace → Nat → Bool

/-- `(detail, http_status, failure_kind)`. -/
structure StreamFailure where
  detail : String
  httpStatus : Option Nat
  failureKind : FailureKind

/-! ### Candidates -/

def urlText (text : Option String) : String := text.getD ""

def buildRequestCandidates (httpUrl : String) (ipAddressUrl : Option String) (path : String) (verifySsl : Bool) :
    List (String × Bool) :=
  let mainUrl := httpUrl ++ "/" ++ path
  let fallbackUrl := urlText ipAddressUrl ++ "/" ++ path
  if urlText ipAddressUrl = "" ∨ fallbackUrl = mainUrl then [(mainUrl, verifySsl)]
  else [(mainUrl, verifySsl), (fallbackUrl, verifySsl)]

structure ContextBinding where
  endpointId : Option Int
  targetFingerprint : String
  httpUrl : String
  ipAddressUrl : String
  verifySsl : Bool
  headers : List (String × String)
  deriving DecidableEq

def headerOrder (a b : String × String) : Prop := a.1 < b.1 ∨ a.1 = b.1 ∧ a.2 ≤ b.2

instance : DecidableRel headerOrder := fun a b => inferInstanceAs (Decidable (a.1 < b.1 ∨ a.1 = b.1 ∧ a.2 ≤ b.2))

def requestContextBinding (context : BackendRequestContext) : ContextBinding where
  endpointId := context.endpointId
  targetFingerprint := context.targetFingerprint
  httpUrl := rstripOf '/' (urlText context.httpUrl)
  ipAddressUrl := rstripOf '/' (urlText context.ipAddressUrl)
  verifySsl := context.verifySsl
  headers := context.headers.insertionSort headerOrder

/-- `_stream_candidate_context`: the readiness of exactly this candidate is asked for. -/
def streamCandidateContext (context : BackendRequestContext) (url path : String) (verifySsl : Bool) : BackendRequestContext :=
  let suffix := "/" ++ path
  let base := if endsWith suffix url then String.ofList (url.toList.take (url.length - suffix.length)) else url
  { context with httpUrl := some base, ipAddressUrl := none, verifySsl := verifySsl }

/-! ### Rebinding -/

structure ClientState where
  trace : Trace
  requestedUrls : List String
  retryAfter : Option String

def ClientState.did (state : ClientState) (step : ClientStep) : ClientState := { state with trace := state.trace ++ [step] }

/-- The endpoint that a context is bound to, when the caller names one too. -/
def boundEndpointId (context : BackendRequestContext) : Option Int → Option Int
  | none => context.endpointId
  | some endpointId => if context.endpointId.all (· == endpointId) then some endpointId else none

section Client

variable (isAlnum : Char → Bool) (codec : StreamCodec) (world : ClientWorld)

def handleAuthRegistrationAndRetry (context : BackendRequestContext) (endpointId : Option Int) (state : ClientState) :
    Option (Option BackendRequestContext) × ClientState :=
  match boundEndpointId context endpointId with
  | none => (some none, state)
  | some bound => match world.resolve state.trace (some bound) with
    | none => (none, state)
    | some none => (some none, state.did (.resolved (some bound) none))
    | some (some fresh) =>
      let state := state.did (.resolved (some bound) (some fresh))
      if urlText fresh.httpUrl = "" ∨ fresh.headers = [] then (some none, state)
      else match world.authenticate state.trace fresh with
        | none => (none, state)
        | some false => (some none, state.did (.authenticated fresh false))
        | some true =>
          let state := state.did (.authenticated fresh true)
          match world.resolve state.trace (some bound) with
          | none => (none, state)
          | some none => (some none, state.did (.resolved (some bound) none))
          | some (some confirmed) =>
            (some (if requestContextBinding confirmed = requestContextBinding fresh then some confirmed else none),
              state.did (.resolved (some bound) (some confirmed)))

/-! ### One context -/

inductive TriedUrl where
  | opened (body : SseBody)
  | failed (failure : StreamFailure) (fresh : Option BackendRequestContext)
  | raised

def redirectDetail : String := "ProxBox backend redirects are not permitted."

def callStreamHttpError (context : BackendRequestContext) (endpointId : Option Int) (authRegisterAttempted : Bool)
    (status : Nat)
    (retryAfter : Option String) (json : Option Json) (state : ClientState) : TriedUrl × ClientState :=
  let state := { state with retryAfter := retryAfter.or state.retryAfter }
  let rebound := if json.any (namesApiKey status · authRegisterAttempted) then
      handleAuthRegistrationAndRetry world context endpointId state
    else (some none, state)
  let error := streamHttpError isAlnum status json authRegisterAttempted rebound.1
  (.failed ⟨error.detail, some error.httpStatus, error.failureKind⟩ error.freshContext, rebound.2)

def trySyncStreamUrl (context : BackendRequestContext) (endpointId : Option Int) (authRegisterAttempted : Bool) (url : String)
    (state : ClientState) : TriedUrl × ClientState :=
  let reply := world.request state.trace context url
  let state := state.did (.requested context url reply)
  match reply with
  | .raised => (.raised, state)
  | .osError detail => (.failed ⟨detail, none, .transport⟩ none, state)
  | .requestException detail status => (.failed ⟨detail, status, .transport⟩ none, state)
  | .response status retryAfter json stream =>
    if 300 ≤ status ∧ status < 400 then (.failed ⟨redirectDetail, some 502, .transport⟩ none, state)
    else if 400 ≤ status then
      callStreamHttpError isAlnum world context endpointId authRegisterAttempted status retryAfter json state
    else (.opened stream, state)

/-- `_StreamCandidatePass`, or an exception. -/
inductive CandidatePass where
  | answered (payload : Fields) (status : Nat)
  | fresh (context : BackendRequestContext)
  | failures (failures : List StreamFailure)
  | raised

def requestCandidate (context : BackendRequestContext) (path : String) (endpointId : Option Int) (authRegisterAttempted : Bool)
    (url : String) (failures : List StreamFailure) (state : ClientState) : CandidatePass × ClientState :=
  match trySyncStreamUrl isAlnum world context endpointId authRegisterAttempted url state with
  | (.raised, state) => (.raised, state)
  | (.opened body, state) =>
    match consumeStreamResponse isAlnum codec (world.expired state.trace) path state.requestedUrls body with
    | none => (.raised, state)
    | some (payload, status) => (.answered payload status, state)
  | (.failed _ (some fresh), state) => (.fresh fresh, state)
  | (.failed failure none, state) => (.failures (failures ++ [failure]), state)

def readinessRedirect : String := "Backend redirects are not permitted."

def tryStreamCandidates (context : BackendRequestContext) (path : String) (endpointId : Option Int)
    (authRegisterAttempted : Bool) :
    List (String × Bool) → List StreamFailure → ClientState → CandidatePass × ClientState
  | [], failures, state => (.failures failures, state)
  | (url, verify) :: rest, failures, state =>
    let state := { state with requestedUrls := state.requestedUrls ++ [url] }
    match world.ready state.trace (streamCandidateContext context url path verify) with
    | none => (.raised, state)
    | some (true, message) => requestCandidate isAlnum codec world context path endpointId authRegisterAttempted url failures
        (state.did (.probed url true message))
    | some (false, message) =>
      let state := state.did (.probed url false message)
      let failures := failures ++ [⟨"Backend not ready: " ++ message, some 503, .transport⟩]
      if message = readinessRedirect then (.failures failures, state)
      else tryStreamCandidates context path endpointId authRegisterAttempted rest failures state

def runStreamCandidatePass (context : BackendRequestContext) (path : String) (endpointId : Option Int)
    (authRegisterAttempted : Bool) (state : ClientState) : CandidatePass × ClientState :=
  if urlText context.httpUrl = "" then
    (.failures [⟨"No FastAPI URL found after authentication retry.", none, .application⟩], state)
  else
    tryStreamCandidates isAlnum codec world context path endpointId authRegisterAttempted
      (buildRequestCandidates (urlText context.httpUrl) context.ipAddressUrl path context.verifySsl) [] state

/-! ### The run -/

def selectStreamFailure (failures : List StreamFailure) : Option StreamFailure :=
  (failures.find? fun failure => failure.failureKind = .application).or failures.getLast?

def failedRun (path : String) (failures : List StreamFailure) (state : ClientState) : Fields × Nat :=
  let failure := (selectStreamFailure failures).getD ⟨"", none, .transport⟩
  let detail := if failure.detail = "" then "Unable to reach the ProxBox backend stream." else failure.detail
  let status := failure.httpStatus.getD 0
  ([("stream", .bool true), ("path", .str path), ("requested_urls", .arr (state.requestedUrls.map .str)),
      ("detail", .str detail), ("failure_kind", .str failure.failureKind.text)] ++
    (state.retryAfter.map fun text => ("retry_after", Json.str text)).toList, if status = 0 then 503 else status)

inductive RunResult where
  | returned (payload : Fields) (status : Nat)
  | raised

/-- The `while True` of `run_sync_stream`, for so many rounds; `none` when they do not suffice. -/
def streamLoop (path : String) (endpointId : Option Int) :
    Nat → BackendRequestContext → Bool → ClientState → Option RunResult × ClientState
  | 0, _, _, state => (none, state)
  | rounds + 1, context, authRegisterAttempted, state =>
    let failed (failures : List StreamFailure) (state : ClientState) : Option RunResult × ClientState :=
      (some (.returned (failedRun path failures state).1 (failedRun path failures state).2), state)
    if world.outOfTime state.trace then
      failed [⟨"Job deadline reached during backend stream setup.", some 504, .transport⟩] state
    else match runStreamCandidatePass isAlnum codec world context path endpointId authRegisterAttempted state with
      | (.raised, state) => (some .raised, state)
      | (.answered payload status, state) => (some (.returned payload status), state)
      | (.fresh fresh, state) => streamLoop path endpointId rounds fresh true state
      | (.failures failures, state) => failed failures state

def noBackendUrl : RunResult :=
  .returned [("stream", .bool false), ("detail", .str "No FastAPI URL found."),
    ("failure_kind", .str FailureKind.application.text)] 404

def runSyncStream (path : String) (endpointId : Option Int) (rounds : Nat) : Option RunResult × Trace :=
  match world.resolve [] endpointId with
  | none => (some .raised, [])
  | some none => (some noBackendUrl, [.resolved endpointId none])
  | some (some context) =>
    let state : ClientState := ⟨[.resolved endpointId (some context)], [], none⟩
    if urlText context.httpUrl = "" then (some noBackendUrl, state.trace)
    else
      let run := streamLoop isAlnum codec world path endpointId rounds context false state
      (run.1, run.2.trace)

/-! ### What one context does -/

def ClientStep.silent : ClientStep → Bool
  | .resolved _ _ => true
  | .authenticated _ _ => true
  | _ => false

def ClientStep.isRequest : ClientStep → Bool
  | .requested _ _ _ => true
  | _ => false

def reboundSteps (bound : Int) (fresh confirmed : BackendRequestContext) : Trace :=
  [.resolved (some bound) (some fresh), .authenticated fresh true, .resolved (some bound) (some confirmed)]

variable {isAlnum codec world} {context : BackendRequestContext} {endpointId : Option Int} {state : ClientState}

structure Silent (state : ClientState) (rebind : Trace) (state' : ClientState) : Prop where
  trace : state'.trace = state.trace ++ rebind
  silent : ∀ step ∈ rebind, step.silent = true

theorem Silent.refl : Silent state [] state := ⟨(List.append_nil _).symm, List.forall_mem_nil _⟩

theorem Silent.did {rebind : Trace} {state' : ClientState} {step : ClientStep} (h : Silent state rebind state')
    (hstep : step.silent = true) : Silent state (rebind ++ [step]) (state'.did step) := by
  refine ⟨?_, List.forall_mem_append.2 ⟨h.silent, List.forall_mem_singleton.2 hstep⟩⟩
  rw [ClientState.did, h.trace, List.append_assoc]

def Rechecked (context : BackendRequestContext) (endpointId : Option Int) (rebind : Trace)
    (confirmed : BackendRequestContext) : Prop :=
  ∃ bound fresh, boundEndpointId context endpointId = some bound ∧ rebind = reboundSteps bound fresh confirmed ∧
    requestContextBinding confirmed = requestContextBinding fresh

theorem handleAuthRegistrationAndRetry_spec (context : BackendRequestContext) (endpointId : Option Int) (state : ClientState) :
    ∃ rebind, Silent state rebind (handleAuthRegistrationAndRetry world context endpointId state).2 ∧
      ∀ confirmed, (handleAuthRegistrationAndRetry world context endpointId state).1 = some (some confirmed) →
        Rechecked context endpointId rebind confirmed := by
  unfold handleAuthRegistrationAndRetry
  split
  · exact ⟨_, Silent.refl, fun _ h => by cases h⟩
  · rename_i bound hbound
    split
    · exact ⟨_, Silent.refl, fun _ h => by cases h⟩
    · exact ⟨_, Silent.refl.did rfl, fun _ h => by cases h⟩
    · rename_i fresh _
      dsimp only
      split_ifs
      · exact ⟨_, Silent.refl.did rfl, fun _ h => by cases h⟩
      · split
        · exact ⟨_, Silent.refl.did rfl, fun _ h => by cases h⟩
        · exact ⟨_, (Silent.refl.did rfl).did rfl, fun _ h => by cases h⟩
        · split
          · exact ⟨_, (Silent.refl.did rfl).did rfl, fun _ h => by cases h⟩
          · exact ⟨_, ((Silent.refl.did rfl).did rfl).did rfl, fun _ h => by cases h⟩
          · refine ⟨_, ((Silent.refl.did rfl).did rfl).did rfl, fun confirmed h => ?_⟩
            have hsame := Option.some.inj h
            split_ifs at hsame with hbinding
            · obtain rfl := Option.some.inj hsame
              exact ⟨bound, fresh, hbound, rfl, hbinding⟩

/-- The steps under one context: readiness probes, at most one request, and the check of the stored key after
it. -/
structure Epoch where
  context : BackendRequestContext
  probes : List (String × Bool × String)
  request : Option (String × StreamReply)
  rebind : Trace

def Epoch.probeSteps (epoch : Epoch) : Trace := epoch.probes.map fun probe => .probed probe.1 probe.2.1 probe.2.2

def Epoch.requestSteps (epoch : Epoch) : Trace := (epoch.request.map fun sent => .requested epoch.context sent.1 sent.2).toList

def Epoch.steps (epoch : Epoch) : Trace := epoch.probeSteps ++ epoch.requestSteps ++ epoch.rebind

def BackendRequestContext.candidates (context : BackendRequestContext) (path : String) : List String :=
  (buildRequestCandidates (urlText context.httpUrl) context.ipAddressUrl path context.verifySsl).map Prod.fst

/-- The candidates are probed in their order up to the first that is ready, and only that one is asked to start
the sync. -/
structure Epoch.Ordered (epoch : Epoch) (candidates : List String) : Prop where
  inOrder : epoch.probes.map Prod.fst <+: candidates
  ready : ∀ url reply, epoch.request = some (url, reply) → ∃ earlier message,
    epoch.probes = earlier ++ [(url, true, message)] ∧ ∀ probe ∈ earlier, probe.2.1 = false
  silent : ∀ step ∈ epoch.rebind, step.silent = true

/-- The request was rejected for its API key, and the stored key leads to another context. -/
structure Epoch.Rebound (epoch : Epoch) (endpointId : Option Int) (next : BackendRequestContext) : Prop where
  rejected : ∃ url retryAfter json stream, epoch.request = some (url, .response 401 retryAfter (some json) stream) ∧
    namesApiKey 401 json false = true
  rechecked : Rechecked epoch.context endpointId epoch.rebind next

theorem namesApiKey_eq_true {status : Nat} {payload : Json} {attempted : Bool}
    (h : namesApiKey status payload attempted = true) :
    status = 401 ∧ attempted = false := by
  simp only [namesApiKey, Bool.and_eq_true, Bool.not_eq_true', beq_iff_eq] at h
  exact ⟨h.1.2, h.1.1.2⟩

theorem freshContext_streamHttpError {status : Nat} {body : Option Json} {attempted : Bool}
    {rebind : Option (Option BackendRequestContext)} {fresh : BackendRequestContext}
    (h : (streamHttpError isAlnum status body attempted rebind).freshContext = some fresh) :
    ∃ json, body = some json ∧ namesApiKey status json attempted = true ∧ rebind = some (some fresh) := by
  unfold streamHttpError at h
  split at h
  · cases h
  · rename_i json
    dsimp only at h
    split_ifs at h with hnames
    · split at h
      · obtain rfl := Option.some.inj h
        exact ⟨json, rfl, hnames, rfl⟩
      · cases h
      · cases h

theorem callStreamHttpError_spec (context : BackendRequestContext) (endpointId : Option Int) (attempted : Bool) (status : Nat)
    (retryAfter : Option String) (json : Option Json) (state : ClientState) : ∃ rebind,
      Silent state rebind (callStreamHttpError isAlnum world context endpointId attempted status retryAfter json state).2 ∧
      ∀ failure fresh,
        (callStreamHttpError isAlnum world context endpointId attempted status retryAfter json state).1 =
          .failed failure (some fresh) →
        attempted = false ∧ status = 401 ∧ (∃ payload, json = some payload ∧ namesApiKey 401 payload false = true) ∧
          Rechecked context endpointId rebind fresh := by
  unfold callStreamHttpError
  dsimp only
  split_ifs
  · obtain ⟨rebind, hsilent, hrechecked⟩ := @handleAuthRegistrationAndRetry_spec world context endpointId
      { state with retryAfter := retryAfter.or state.retryAfter }
    refine ⟨rebind, ⟨hsilent.trace, hsilent.silent⟩, fun failure fresh h => ?_⟩
    obtain ⟨payload, hjson, hnames, hrebind⟩ := freshContext_streamHttpError (TriedUrl.failed.inj h).2
    obtain ⟨rfl, rfl⟩ := namesApiKey_eq_true hnames
    exact ⟨rfl, rfl, ⟨payload, hjson, hnames⟩, hrechecked fresh hrebind⟩
  · refine ⟨[], ⟨(List.append_nil _).symm, List.forall_mem_nil _⟩, fun failure fresh h => ?_⟩
    obtain ⟨payload, -, -, hrebind⟩ := freshContext_streamHttpError (TriedUrl.failed.inj h).2
    cases hrebind

theorem trySyncStreamUrl_spec (context : BackendRequestContext) (endpointId : Option Int) (attempted : Bool) (url : String)
    (state : ClientState) : ∃ reply rebind,
      (trySyncStreamUrl isAlnum world context endpointId attempted url state).2.trace =
        state.trace ++ .requested context url reply :: rebind ∧
      (∀ step ∈ rebind, step.silent = true) ∧
      ∀ failure fresh, (trySyncStreamUrl isAlnum world context endpointId attempted url state).1 =
        .failed failure (some fresh) →
        attempted = false ∧ (∃ retryAfter json stream, reply = .response 401 retryAfter (some json) stream ∧
          namesApiKey 401 json false = true) ∧ Rechecked context endpointId rebind fresh := by
  unfold trySyncStreamUrl
  dsimp only
  split
  · exact ⟨_, [], rfl, List.forall_mem_nil _, fun _ _ h => by cases h⟩
  · exact ⟨_, [], rfl, List.forall_mem_nil _, fun _ _ h => by cases h⟩
  · exact ⟨_, [], rfl, List.forall_mem_nil _, fun _ _ h => by cases h⟩
  · rename_i status retryAfter json stream hreply
    split_ifs
    · exact ⟨_, [], rfl, List.forall_mem_nil _, fun _ _ h => by cases h⟩
    · obtain ⟨rebind, hsilent, hfresh⟩ := @callStreamHttpError_spec isAlnum world context endpointId attempted status retryAfter
        json (state.did (.requested context url (world.request state.trace context url)))
      refine ⟨_, rebind, hsilent.trace.trans (List.append_assoc _ _ _), hsilent.silent, fun failure fresh h => ?_⟩
      obtain ⟨hattempted, rfl, ⟨payload, rfl, hnames⟩, hrechecked⟩ := hfresh failure fresh h
      exact ⟨hattempted, ⟨retryAfter, payload, stream, hreply, hnames⟩, hrechecked⟩
    · exact ⟨_, [], rfl, List.forall_mem_nil _, fun _ _ h => by cases h⟩

theorem requestCandidate_spec (context : BackendRequestContext) (path : String) (endpointId : Option Int) (attempted : Bool)
    (url : String) (failures : List StreamFailure) (state : ClientState) : ∃ reply rebind,
      (requestCandidate isAlnum codec world context path endpointId attempted url failures state).2.trace =
        state.trace ++ .requested context url reply :: rebind ∧
      (∀ step ∈ rebind, step.silent = true) ∧
      ∀ fresh, (requestCandidate isAlnum codec world context path endpointId attempted url failures state).1 = .fresh fresh →
        attempted = false ∧ (∃ retryAfter json stream, reply = .response 401 retryAfter (some json) stream ∧
          namesApiKey 401 json false = true) ∧ Rechecked context endpointId rebind fresh := by
  obtain ⟨reply, rebind, htrace, hsilent, hfresh⟩ :=
    @trySyncStreamUrl_spec isAlnum world context endpointId attempted url state
  unfold requestCandidate
  rcases htried : trySyncStreamUrl isAlnum world context endpointId attempted url state with ⟨tried, state'⟩
  rw [htried] at htrace hfresh
  cases tried with
  | raised => exact ⟨reply, rebind, htrace, hsilent, fun _ h => by cases h⟩
  | opened body =>
    dsimp only
    cases consumeStreamResponse isAlnum codec (world.expired state'.trace) path state'.requestedUrls body with
    | none => exact ⟨reply, rebind, htrace, hsilent, fun _ h => by cases h⟩
    | some answer => exact ⟨reply, rebind, htrace, hsilent, fun _ h => by cases h⟩
  | failed failure handed =>
    cases handed with
    | none => exact ⟨reply, rebind, htrace, hsilent, fun _ h => by cases h⟩
    | some handed =>
      refine ⟨reply, rebind, htrace, hsilent, fun fresh h => ?_⟩
      obtain rfl := CandidatePass.fresh.inj h
      exact hfresh failure handed rfl

structure PassSpec (context : BackendRequestContext) (endpointId : Option Int) (attempted : Bool) (candidates : List String)
    (state : ClientState) (pass : CandidatePass × ClientState) (epoch : Epoch) : Prop where
  context : epoch.context = context
  trace : pass.2.trace = state.trace ++ epoch.steps
  ordered : epoch.Ordered candidates
  fresh : ∀ next, pass.1 = .fresh next → attempted = false ∧ epoch.Rebound endpointId next

theorem tryStreamCandidates_spec (context : BackendRequestContext) (path : String) (endpointId : Option Int) (attempted : Bool)
    (candidates : List (String × Bool)) (failures : List StreamFailure) (state : ClientState) : ∃ epoch,
      PassSpec context endpointId attempted (candidates.map Prod.fst) state
        (tryStreamCandidates isAlnum codec world context path endpointId attempted candidates failures state) epoch := by
  have hquiet (candidates : List String) (pass : CandidatePass) (hpass : ∀ next, pass ≠ .fresh next)
    (state state' : ClientState) (htrace : state'.trace = state.trace) :
      PassSpec context endpointId attempted candidates state (pass, state') ⟨context, [], none, []⟩ :=
    ⟨rfl, by simp [htrace, Epoch.steps, Epoch.probeSteps, Epoch.requestSteps],
      ⟨List.nil_prefix, fun _ _ h => (by cases h), List.forall_mem_nil _⟩, fun next h => absurd h (hpass next)⟩
  induction candidates generalizing failures state with
  | nil => exact ⟨_, hquiet _ _ (fun _ h => by cases h) _ _ rfl⟩
  | cons candidate rest ih =>
    obtain ⟨url, verify⟩ := candidate
    unfold tryStreamCandidates
    dsimp only
    split
    · exact ⟨_, hquiet _ _ (fun _ h => by cases h) _ _ rfl⟩
    · rename_i message _
      obtain ⟨reply, rebind, htrace, hsilent, hfresh⟩ := @requestCandidate_spec isAlnum codec world context path endpointId
        attempted url failures
        (({ state with requestedUrls := state.requestedUrls ++ [url] } : ClientState).did (.probed url true message))
      refine ⟨⟨context, [(url, true, message)], some (url, reply), rebind⟩, rfl, ?_, ?_, fun next h => ?_⟩
      · rw [htrace]
        simp [ClientState.did, Epoch.steps, Epoch.probeSteps, Epoch.requestSteps]
      · refine ⟨List.prefix_append [url] _, fun sent answer h => ?_, hsilent⟩
        cases h
        exact ⟨[], message, rfl, List.forall_mem_nil _⟩
      · obtain ⟨hattempted, ⟨retryAfter, json, stream, rfl, hnames⟩, hrechecked⟩ := hfresh next h
        exact ⟨hattempted, ⟨url, retryAfter, json, stream, rfl, hnames⟩, hrechecked⟩
    · rename_i message _
      split_ifs
      · refine ⟨⟨context, [(url, false, message)], none, []⟩, rfl, ?_, ?_, fun next h => by cases h⟩
        · simp [ClientState.did, Epoch.steps, Epoch.probeSteps, Epoch.requestSteps]
        · exact ⟨List.prefix_append [url] _, fun _ _ h => (by cases h), List.forall_mem_nil _⟩
      · obtain ⟨epoch, hepoch⟩ := ih (failures ++ [⟨"Backend not ready: " ++ message, some 503, .transport⟩])
          (({ state with requestedUrls := state.requestedUrls ++ [url] } : ClientState).did (.probed url false message))
        refine ⟨{ epoch with probes := (url, false, message) :: epoch.probes }, hepoch.context, ?_, ?_, fun next h => ?_⟩
        · rw [hepoch.trace]
          simp [ClientState.did, Epoch.steps, Epoch.probeSteps, Epoch.requestSteps]
        · refine ⟨(List.prefix_cons_inj url).2 hepoch.ordered.inOrder, fun sent answer h => ?_, hepoch.ordered.silent⟩
          obtain ⟨earlier, ready, hprobes, hearlier⟩ := hepoch.ordered.ready sent answer h
          refine ⟨(url, false, message) :: earlier, ready, ?_, List.forall_mem_cons.2 ⟨rfl, hearlier⟩⟩
          rw [hprobes]
          rfl
        · obtain ⟨hattempted, hrejected, hrechecked⟩ := hepoch.fresh next h
          exact ⟨hattempted, hrejected, hrechecked⟩

theorem runStreamCandidatePass_spec (context : BackendRequestContext) (path : String) (endpointId : Option Int)
    (attempted : Bool) (state : ClientState) : ∃ epoch,
      PassSpec context endpointId attempted (context.candidates path) state
        (runStreamCandidatePass isAlnum codec world context path endpointId attempted state) epoch := by
  unfold runStreamCandidatePass
  split_ifs
  · refine ⟨⟨context, [], none, []⟩, rfl, ?_, ?_, fun next h => by cases h⟩
    · simp [Epoch.steps, Epoch.probeSteps, Epoch.requestSteps]
    · exact ⟨List.nil_prefix, fun _ _ h => (by cases h), List.forall_mem_nil _⟩
  · exact tryStreamCandidates_spec _ _ _ _ _ _ _

/-! ### The whole run -/

/-- The epochs of a run, each under the context that the one before was rebound to. -/
inductive Epochs (path : String) (endpointId : Option Int) : BackendRequestContext → Bool → List Epoch → Prop where
  | none (context : BackendRequestContext) (attempted : Bool) : Epochs path endpointId context attempted []
  | last {epoch : Epoch} (attempted : Bool) (hordered : epoch.Ordered (epoch.context.candidates path)) :
      Epochs path endpointId epoch.context attempted [epoch]
  | rebound {epoch : Epoch} {next : BackendRequestContext} {later : List Epoch}
      (hordered : epoch.Ordered (epoch.context.candidates path)) (hrebound : epoch.Rebound endpointId next)
      (hlater : Epochs path endpointId next true later) : Epochs path endpointId epoch.context false (epoch :: later)

/-- The loop ends, in the second round at the latest. -/
theorem streamLoop_spec (path : String) (endpointId : Option Int) (rounds : Nat) (context : BackendRequestContext)
    (attempted : Bool) (state : ClientState) (hrounds : 2 ≤ rounds ∨ (attempted = true ∧ 1 ≤ rounds)) :
    ((streamLoop isAlnum codec world path endpointId rounds context attempted state).1.isSome = true) ∧
      ∃ epochs, Epochs path endpointId context attempted epochs ∧
        (streamLoop isAlnum codec world path endpointId rounds context attempted state).2.trace =
          state.trace ++ epochs.flatMap Epoch.steps := by
  induction rounds generalizing context attempted state with
  | zero => omega
  | succ rounds ih =>
    unfold streamLoop
    dsimp only
    split_ifs
    · exact ⟨rfl, [], .none _ _, (List.append_nil _).symm⟩
    · obtain ⟨epoch, hepoch⟩ := @runStreamCandidatePass_spec isAlnum codec world context path endpointId attempted state
      rcases hpass : runStreamCandidatePass isAlnum codec world context path endpointId attempted state with ⟨pass, state'⟩
      rw [hpass] at hepoch
      obtain ⟨rfl, htrace, hordered, hfresh⟩ := hepoch
      have htrace : state'.trace = state.trace ++ epoch.steps := htrace
      have hone : state'.trace = state.trace ++ [epoch].flatMap Epoch.steps := by simp [htrace]
      cases pass with
      | raised => exact ⟨rfl, [epoch], .last _ hordered, hone⟩
      | answered payload status => exact ⟨rfl, [epoch], .last _ hordered, hone⟩
      | failures failures => exact ⟨rfl, [epoch], .last _ hordered, hone⟩
      | fresh next =>
        obtain ⟨rfl, hrebound⟩ := hfresh next rfl
        have hrest : 1 ≤ rounds := by
          rcases hrounds with h | ⟨h, -⟩
          · omega
          · cases h
        obtain ⟨hsome, later, hlater, hlatertrace⟩ := ih next true state' (.inr ⟨rfl, hrest⟩)
        refine ⟨hsome, epoch :: later, .rebound hordered hrebound hlater, ?_⟩
        dsimp only
        rw [hlatertrace, htrace, List.flatMap_cons, List.append_assoc]

theorem countP_isRequest_of_silent {trace : Trace} (h : ∀ step ∈ trace, step.silent = true) :
    trace.countP ClientStep.isRequest = 0 := by
  refine List.countP_eq_zero.2 fun step hstep hrequest => ?_
  have hsilent := h step hstep
  cases step <;> cases hsilent <;> cases hrequest

theorem Epoch.Ordered.countP_steps {epoch : Epoch} {candidates : List String} (h : epoch.Ordered candidates) :
    epoch.steps.countP ClientStep.isRequest ≤ 1 := by
  have hprobes : epoch.probeSteps.countP ClientStep.isRequest = 0 := by
    simp [Epoch.probeSteps, List.countP_eq_zero, ClientStep.isRequest]
  have hrequest : epoch.requestSteps.countP ClientStep.isRequest ≤ 1 := by
    refine List.countP_le_length.trans ?_
    unfold Epoch.requestSteps
    cases epoch.request <;> simp
  rw [Epoch.steps, List.countP_append, List.countP_append, countP_isRequest_of_silent h.silent]
  omega

theorem countP_flatMap_steps {epochs : List Epoch} (h : ∀ epoch ∈ epochs, epoch.steps.countP ClientStep.isRequest ≤ 1) :
    (epochs.flatMap Epoch.steps).countP ClientStep.isRequest ≤ epochs.length := by
  induction epochs with
  | nil => exact Nat.le_refl 0
  | cons epoch later ih =>
    obtain ⟨hepoch, hlater⟩ := List.forall_mem_cons.1 h
    rw [List.flatMap_cons, List.countP_append, List.length_cons, Nat.add_comm]
    exact Nat.add_le_add (ih hlater) hepoch

theorem Epochs.spec {path : String} {context : BackendRequestContext} {attempted : Bool} {epochs : List Epoch}
    (h : Epochs path endpointId context attempted epochs) :
    epochs.length ≤ (if attempted then 1 else 2) ∧
      (∀ epoch ∈ epochs, epoch.Ordered (epoch.context.candidates path)) ∧
      ∀ epoch later, epochs = epoch :: later → epoch.context = context ∧
        ∀ next, later.head? = some next → epoch.Rebound endpointId next.context := by
  induction h with
  | none context attempted =>
    refine ⟨Nat.zero_le _, List.forall_mem_nil _, fun _ _ h => ?_⟩
    cases h
  | last attempted hordered =>
    refine ⟨by cases attempted <;> simp, List.forall_mem_singleton.2 hordered, fun epoch later h => ?_⟩
    cases h
    exact ⟨rfl, fun _ h => by cases h⟩
  | rebound hordered hrebound hlater ih =>
    obtain ⟨hlength, hall, hfirst⟩ := ih
    have hlength : _ ≤ 1 := hlength
    refine ⟨Nat.succ_le_succ hlength, List.forall_mem_cons.2 ⟨hordered, hall⟩, fun epoch later h => ?_⟩
    cases h
    refine ⟨rfl, fun next hnext => ?_⟩
    obtain ⟨rest, rfl⟩ := List.head?_eq_some_iff.1 hnext
    rw [(hfirst next rest rfl).1]
    exact hrebound

/-- A run ends. Under one context the candidates are probed in their order, and only the first that is ready
gets a request. There are at most two contexts, the second after a rejected API key and a check of the stored
one. -/
structure AtMostOnce (path : String) (endpointId : Option Int) (run : Option RunResult × Trace) : Prop where
  ends : run.1.isSome = true
  requests : run.2.countP ClientStep.isRequest ≤ 2
  epochs : ∃ start epochs, run.2 = start ++ epochs.flatMap Epoch.steps ∧ (∀ step ∈ start, step.silent = true) ∧
    epochs.length ≤ 2 ∧
    (∀ epoch ∈ epochs, epoch.Ordered (epoch.context.candidates path) ∧ epoch.steps.countP ClientStep.isRequest ≤ 1) ∧
    ∀ first second, epochs = [first, second] → first.Rebound endpointId second.context

theorem AtMostOnce.of_silent {path : String} {result : RunResult} {trace : Trace} (h : ∀ step ∈ trace, step.silent = true) :
    AtMostOnce path endpointId (some result, trace) where
  ends := rfl
  requests := (countP_isRequest_of_silent h).trans_le (Nat.zero_le _)
  epochs := ⟨trace, [], (List.append_nil _).symm, h, Nat.zero_le _, List.forall_mem_nil _, fun _ _ h => by cases h⟩

theorem AtMostOnce.of_epochs {path : String} {context : BackendRequestContext} {result : Option RunResult} {start : Trace}
    {epochs : List Epoch} (hresult : result.isSome = true) (hstart : ∀ step ∈ start, step.silent = true)
    (h : Epochs path endpointId context false epochs) :
    AtMostOnce path endpointId (result, start ++ epochs.flatMap Epoch.steps) := by
  obtain ⟨hlength, hordered, hfirst⟩ := h.spec
  have hlength : epochs.length ≤ 2 := hlength
  have hone (epoch : Epoch) (hepoch : epoch ∈ epochs) : epoch.steps.countP ClientStep.isRequest ≤ 1 :=
    (hordered epoch hepoch).countP_steps
  have htotal := countP_flatMap_steps hone
  refine ⟨hresult, ?_, start, epochs, rfl, hstart, hlength, fun epoch hepoch => ⟨hordered epoch hepoch, hone epoch hepoch⟩,
    fun first second h => (hfirst first [second] h).2 second rfl⟩
  rw [List.countP_append, countP_isRequest_of_silent hstart]
  omega

theorem runSyncStream_at_most_once (isAlnum : Char → Bool) (codec : StreamCodec) (world : ClientWorld) (path : String)
    (endpointId : Option Int) (rounds : Nat) :
    AtMostOnce path endpointId (runSyncStream isAlnum codec world path endpointId (rounds + 2)) := by
  unfold runSyncStream
  split
  · exact .of_silent (List.forall_mem_nil _)
  · exact .of_silent (List.forall_mem_singleton.2 rfl)
  · rename_i context _
    dsimp only
    split_ifs
    · exact .of_silent (List.forall_mem_singleton.2 rfl)
    · obtain ⟨hsome, epochs, hepochs, htrace⟩ := @streamLoop_spec isAlnum codec world path endpointId (rounds + 2) context false
        ⟨[.resolved endpointId (some context)], [], none⟩ (.inl (Nat.le_add_left _ _))
      rw [htrace]
      exact .of_epochs hsome (List.forall_mem_singleton.2 rfl) hepochs

/-! ### The body of a run -/

def StreamReply.opened : StreamReply → Option SseBody
  | .response status _ _ stream => if status < 300 then some stream else none
  | _ => none

def ClientStep.opened : ClientStep → Option SseBody
  | .requested _ _ reply => reply.opened
  | _ => none

def openedBody (trace : Trace) : Option SseBody := trace.findSome? ClientStep.opened

theorem openedBody_append (trace later : Trace) : openedBody (trace ++ later) = (openedBody trace).or (openedBody later) :=
  List.findSome?_append

theorem openedBody_of_silent {trace : Trace} (h : ∀ step ∈ trace, step.silent = true) : openedBody trace = none := by
  refine List.findSome?_eq_none_iff.2 fun step hstep => ?_
  have hsilent := h step hstep
  cases step with
  | resolved endpointId context => rfl
  | authenticated context accepted => rfl
  | probed url ready message => cases hsilent
  | requested context url reply => cases hsilent

theorem openedBody_did {step : ClientStep} (h : openedBody state.trace = none) :
    openedBody (state.did step).trace = step.opened := by
  rw [ClientState.did, openedBody_append, h]
  show (none : Option SseBody).or (openedBody [step]) = step.opened
  rw [openedBody, List.findSome?_singleton, Option.none_or]

def readPass : Option (Fields × Nat) → CandidatePass
  | none => .raised
  | some (payload, status) => .answered payload status

def readRun : Option (Fields × Nat) → RunResult
  | none => .raised
  | some (payload, status) => .returned payload status

theorem trySyncStreamUrl_opened {attempted : Bool} {url : String} {body : SseBody} (h : openedBody state.trace = none)
    (hbody : openedBody (trySyncStreamUrl isAlnum world context endpointId attempted url state).2.trace = some body) :
    (trySyncStreamUrl isAlnum world context endpointId attempted url state).1 = .opened body := by
  have hdid := @openedBody_did _ (.requested context url (world.request state.trace context url)) h
  unfold trySyncStreamUrl at hbody ⊢
  dsimp only at hbody ⊢
  rcases hreply : world.request state.trace context url with ⟨status, retryAfter, json, stream⟩ | ⟨detail, status⟩ | detail | _
  · rw [hreply] at hbody hdid
    dsimp only at hbody ⊢
    split_ifs at hbody ⊢ with hredirect herror
    · rw [hdid, ClientStep.opened, StreamReply.opened, if_neg (by omega)] at hbody
      cases hbody
    · obtain ⟨rebind, hsilent, -⟩ := @callStreamHttpError_spec isAlnum world context endpointId attempted status retryAfter json
        (state.did (.requested context url (.response status retryAfter json stream)))
      rw [hsilent.trace, openedBody_append, hdid, openedBody_of_silent hsilent.silent, ClientStep.opened, StreamReply.opened,
        if_neg (by omega)] at hbody
      cases hbody
    · rw [hdid, ClientStep.opened, StreamReply.opened, if_pos (by omega)] at hbody
      rw [Option.some.inj hbody]
  all_goals
    rw [hreply] at hbody hdid
    dsimp only at hbody
    rw [hdid] at hbody
    cases hbody

theorem requestCandidate_opened {path : String} {attempted : Bool} {url : String} {failures : List StreamFailure}
    {body : SseBody} (h : openedBody state.trace = none)
    (hbody : openedBody (requestCandidate isAlnum codec world context path endpointId attempted url failures state).2.trace =
      some body) : ∃ urls,
      (requestCandidate isAlnum codec world context path endpointId attempted url failures state).1 =
        readPass (consumeStreamResponse isAlnum codec
          (world.expired (requestCandidate isAlnum codec world context path endpointId attempted url failures state).2.trace)
          path urls body) := by
  have hopened := @trySyncStreamUrl_opened isAlnum world context endpointId state attempted url body h
  unfold requestCandidate at hbody ⊢
  rcases htried : trySyncStreamUrl isAlnum world context endpointId attempted url state with ⟨tried, state'⟩
  rw [htried] at hbody hopened
  cases tried with
  | raised => cases hopened hbody
  | opened other =>
    dsimp only at hbody ⊢
    cases hread : consumeStreamResponse isAlnum codec (world.expired state'.trace) path state'.requestedUrls other with
    | none =>
      rw [hread] at hbody
      obtain rfl := TriedUrl.opened.inj (hopened hbody)
      exact ⟨_, by rw [hread]; rfl⟩
    | some answer =>
      rw [hread] at hbody
      obtain rfl := TriedUrl.opened.inj (hopened hbody)
      exact ⟨_, by rw [hread]; rfl⟩
  | failed failure handed =>
    cases handed with
    | none => cases hopened hbody
    | some handed => cases hopened hbody

theorem tryStreamCandidates_opened {path : String} {attempted : Bool} {candidates : List (String × Bool)}
    {failures : List StreamFailure} {body : SseBody} (h : openedBody state.trace = none) (hbody : openedBody
      (tryStreamCandidates isAlnum codec world context path endpointId attempted candidates failures state).2.trace =
      some body) : ∃ urls,
      (tryStreamCandidates isAlnum codec world context path endpointId attempted candidates failures state).1 =
        readPass (consumeStreamResponse isAlnum codec
          (world.expired
            (tryStreamCandidates isAlnum codec world context path endpointId attempted candidates failures state).2.trace)
          path urls body) := by
  induction candidates generalizing failures state with
  | nil =>
    have hnone : openedBody state.trace = some body := hbody
    rw [h] at hnone
    cases hnone
  | cons candidate rest ih =>
    obtain ⟨url, verify⟩ := candidate
    unfold tryStreamCandidates at hbody ⊢
    dsimp only at hbody ⊢
    cases hready : world.ready state.trace (streamCandidateContext context url path verify) with
    | none =>
      rw [hready] at hbody
      have hnone : openedBody state.trace = some body := hbody
      rw [h] at hnone
      cases hnone
    | some answer =>
      obtain ⟨ready, message⟩ := answer
      rw [hready] at hbody
      have hprobed : openedBody
          (({ state with requestedUrls := state.requestedUrls ++ [url] } : ClientState).did (.probed url ready message)).trace =
            none := openedBody_did h
      cases ready with
      | true => exact requestCandidate_opened hprobed hbody
      | false =>
        dsimp only at hbody ⊢
        split_ifs at hbody ⊢
        · rw [hprobed] at hbody
          cases hbody
        · exact ih hprobed hbody

theorem runStreamCandidatePass_opened {path : String} {attempted : Bool} {body : SseBody} (h : openedBody state.trace = none)
    (hbody : openedBody (runStreamCandidatePass isAlnum codec world context path endpointId attempted state).2.trace =
      some body) : ∃ urls,
      (runStreamCandidatePass isAlnum codec world context path endpointId attempted state).1 =
        readPass (consumeStreamResponse isAlnum codec
          (world.expired (runStreamCandidatePass isAlnum codec world context path endpointId attempted state).2.trace)
          path urls body) := by
  unfold runStreamCandidatePass at hbody ⊢
  split_ifs at hbody ⊢
  · have hnone : openedBody state.trace = some body := hbody
    rw [h] at hnone
    cases hnone
  · exact tryStreamCandidates_opened h hbody

theorem streamLoop_opened {path : String} {rounds : Nat} {attempted : Bool} {body : SseBody} (h : openedBody state.trace = none)
    (hbody : openedBody (streamLoop isAlnum codec world path endpointId rounds context attempted state).2.trace = some body) :
    ∃ urls, (streamLoop isAlnum codec world path endpointId rounds context attempted state).1 =
      some (readRun (consumeStreamResponse isAlnum codec
        (world.expired (streamLoop isAlnum codec world path endpointId rounds context attempted state).2.trace)
        path urls body)) := by
  induction rounds generalizing context attempted state with
  | zero =>
    have hnone : openedBody state.trace = some body := hbody
    rw [h] at hnone
    cases hnone
  | succ rounds ih =>
    unfold streamLoop at hbody ⊢
    dsimp only at hbody ⊢
    split_ifs at hbody ⊢
    · rw [h] at hbody
      cases hbody
    · have hopened := @runStreamCandidatePass_opened isAlnum codec world context endpointId state path attempted
      rcases hpass : runStreamCandidatePass isAlnum codec world context path endpointId attempted state with ⟨pass, state'⟩
      rw [hpass] at hbody hopened
      cases hread : openedBody state'.trace with
      | none =>
        cases pass with
        | raised => cases hread.symm.trans hbody
        | answered payload status => cases hread.symm.trans hbody
        | failures failures => cases hread.symm.trans hbody
        | fresh next => exact ih hread hbody
      | some other =>
        obtain ⟨urls, hpassed⟩ := hopened h hread
        have hpassed : pass = readPass (consumeStreamResponse isAlnum codec (world.expired state'.trace) path urls other) :=
          hpassed
        cases hconsumed : consumeStreamResponse isAlnum codec (world.expired state'.trace) path urls other with
        | none =>
          rw [hconsumed] at hpassed
          subst hpassed
          obtain rfl := Option.some.inj (hread.symm.trans hbody)
          exact ⟨urls, congrArg (fun read => some (readRun read)) hconsumed.symm⟩
        | some answer =>
          rw [hconsumed] at hpassed
          subst hpassed
          obtain rfl := Option.some.inj (hread.symm.trans hbody)
          exact ⟨urls, congrArg (fun read => some (readRun read)) hconsumed.symm⟩

theorem runSyncStream_opened {path : String} {rounds : Nat} {body : SseBody}
    (hbody : openedBody (runSyncStream isAlnum codec world path endpointId rounds).2 = some body) : ∃ urls,
      (runSyncStream isAlnum codec world path endpointId rounds).1 =
        some (readRun (consumeStreamResponse isAlnum codec
          (world.expired (runSyncStream isAlnum codec world path endpointId rounds).2) path urls body)) := by
  unfold runSyncStream at hbody ⊢
  cases hresolve : world.resolve [] endpointId with
  | none =>
    rw [hresolve] at hbody
    cases hbody
  | some resolved =>
    rw [hresolve] at hbody
    cases resolved with
    | none => cases hbody
    | some context =>
      dsimp only at hbody ⊢
      split_ifs at hbody ⊢
      · cases hbody
      · exact streamLoop_opened rfl hbody

end Client

/-! ### The fallback after a rebind -/

def replacedKey : BackendRequestContext where
  endpointId := some 1
  targetFingerprint := "main"
  httpUrl := some "https://proxbox"
  ipAddressUrl := some "https://10.0.0.5"
  verifySsl := true
  headers := [("X-Proxbox-API-Key", "key")]

/-- The main URL answers the first probe and the first request, and is gone afterwards. -/
def rejectedThenGone : ClientWorld where
  resolve _ _ := some (some replacedKey)
  ready trace candidate :=
    if candidate.httpUrl = some "https://proxbox" ∧ trace.any ClientStep.isRequest then some (false, "Connection refused")
    else some (true, "")
  request _ _ url :=
    if url = "https://proxbox/full-update/stream" then
      .response 401 none (some (.obj [("detail", .str "Invalid API key")])) ⟨[], .finished⟩
    else .response 200 none none ⟨[], .finished⟩
  authenticate _ _ := some true
  outOfTime _ := false
  expired _ _ := false

def requestedUrls (trace : Trace) : List String := trace.filterMap fun
  | .requested _ url _ => some url
  | _ => none

theorem fallback_after_rebind :
    requestedUrls (runSyncStream (fun _ => false) ⟨fun _ => none, fun _ => .error ""⟩ rejectedThenGone "full-update/stream"
      none 2).2 = ["https://proxbox/full-update/stream", "https://10.0.0.5/full-update/stream"] := by
  decide +kernel

end Proxbox
