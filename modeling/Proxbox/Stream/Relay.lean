import Proxbox.Stream.Client
/-!
# The relay of a stream

`iter_backend_sse_lines` passes the lines of a backend stream on to a browser. The candidate URLs are asked one
after the other, and the text of a failure follows as an `error` and a `complete` event. The request and the
reading of its body share one handler, which looks at the exception and not at how much of the body was relayed.
-/

namespace Proxbox

/-! ### The relay -/

/-- An exception of a request or of reading its body; `answered` when it carries a response. -/
inductive RelayFailure where
  | requestException (detail : String) (answered : Bool)
  | osError (detail : String)
  | raised

inductive RelayReply where
  | response (status : Nat) (rejection : String) (lines : List (Option String)) (broken : Option RelayFailure)
  | failed (failure : RelayFailure)

inductive RelayStep where
  | requested (url : String)
  | relayed (text : String)
  | framed (text : String)
  deriving DecidableEq

inductive RelayEnd where
  | ended
  | raised

inductive RelayVerdict where
  | returned
  | next (lastError : String)
  | stop (lastError : String)
  | raised

def RelayFailure.verdict : RelayFailure → RelayVerdict
  | .requestException detail true => .stop detail
  | .requestException detail false => .next detail
  | .osError detail => .next detail
  | .raised => .raised

def RelayReply.texts : RelayReply → List String
  | .failed _ => []
  | .response status _ lines _ =>
    if 300 ≤ status ∧ status < 600 then [] else lines.filterMap fun line => line.map (· ++ "\n")

def RelayReply.verdict : RelayReply → RelayVerdict
  | .failed failure => failure.verdict
  | .response status rejection _ broken =>
    if 300 ≤ status ∧ status < 400 then .stop redirectDetail
    -- `raise_for_status`, whose exception carries the response
    else if 400 ≤ status ∧ status < 600 then .stop rejection
    else match broken with
      | none => .returned
      | some failure => failure.verdict

section Relay

variable (jsonText : String → String) (replies : Nat → RelayReply)

def sseErrorFrames (message finalMessage : String) : List String :=
  ["event: error\n",
    "data: \x7b\"step\":\"stream\",\"status\":\"failed\",\"error\":" ++ jsonText message ++ "\x7d\n\n",
    "event: complete\n",
    "data: \x7b\"ok\":false,\"message\":" ++ jsonText finalMessage ++ ",\"result\":null,\"errors\":[]\x7d\n\n"]

def failureFrames (lastError : String) : List String :=
  sseErrorFrames jsonText (if lastError = "" then "Unable to reach the ProxBox backend stream." else lastError)
    "Stream request failed."

/-- The loop over the candidates, with the replies to the requests still to come. -/
def relayCandidates : List (String × Bool) → (Nat → RelayReply) → String → List RelayStep × RelayEnd
  | [], _, lastError => ((failureFrames jsonText lastError).map .framed, .ended)
  | (url, _) :: rest, replies, _ =>
    let steps := RelayStep.requested url :: (replies 0).texts.map .relayed
    match (replies 0).verdict with
    | .returned => (steps, .ended)
    | .raised => (steps, .raised)
    | .stop lastError => (steps ++ (failureFrames jsonText lastError).map .framed, .ended)
    | .next lastError =>
      let later := relayCandidates rest (fun index => replies (index + 1)) lastError
      (steps ++ later.1, later.2)

variable (context : BackendRequestContext)

def contextCandidates (path : String) : List (String × Bool) :=
  buildRequestCandidates (urlText context.httpUrl) context.ipAddressUrl path context.verifySsl

def iterBackendSseLines (path : String) : List RelayStep × RelayEnd :=
  if urlText context.httpUrl = "" then
    ((sseErrorFrames jsonText "No FastAPI URL found." "Stream request failed.").map .framed, .ended)
  else relayCandidates jsonText (contextCandidates context path) replies ""

/-! ### Relaying one response only -/

def RelayStep.isRequest : RelayStep → Bool
  | .requested _ => true
  | _ => false

def RelayStep.isRelayed : RelayStep → Bool
  | .relayed _ => true
  | _ => false

def RelayStep.text : RelayStep → Option String
  | .requested _ => none
  | .relayed text => some text
  | .framed text => some text

def shownTexts (steps : List RelayStep) : List String := steps.filterMap RelayStep.text

/-- No request follows a relayed line. -/
def NoReplay (steps : List RelayStep) : Prop :=
  steps.Pairwise fun earlier later => earlier.isRelayed = true → later.isRequest = false

/-- No request follows a relayed line, and the text is what arrived of one response, with at most the two frames
of a failure after it. -/
structure RelaysOnce (count : Nat) (steps : List RelayStep) : Prop where
  noReplay : NoReplay steps
  text : ∃ shown frames, shownTexts steps = shown ++ frames ∧
    (shown = [] ∨ ∃ index < count, shown = (replies index).texts) ∧
    (frames = [] ∨ ∃ message, frames = sseErrorFrames jsonText message "Stream request failed.")

def RelayReply.passesOn (reply : RelayReply) : Bool := match reply.verdict with
  | .next _ => true
  | _ => false

/-- As long as the candidates pass on to the next, none of them but the last does so after a line of its body
was relayed. -/
def BreaksUnstarted (count : Nat) : Prop :=
  ∀ index, index + 1 < count → (∀ earlier < index, (replies earlier).passesOn = true) →
    (replies index).passesOn = true → (replies index).texts = []

variable {jsonText replies}

theorem shownTexts_append (steps later : List RelayStep) : shownTexts (steps ++ later) = shownTexts steps ++ shownTexts later :=
  List.filterMap_append

theorem shownTexts_relayed (texts : List String) : shownTexts (texts.map .relayed) = texts := by
  simp [shownTexts, List.filterMap_map, RelayStep.text, Function.comp_def]

theorem shownTexts_framed (texts : List String) : shownTexts (texts.map .framed) = texts := by
  simp [shownTexts, List.filterMap_map, RelayStep.text, Function.comp_def]

theorem noReplay_candidate {url : String} {texts : List String} {later : List RelayStep} :
    NoReplay (.requested url :: texts.map .relayed ++ later) ↔
      NoReplay later ∧ (texts = [] ∨ ∀ step ∈ later, step.isRequest = false) := by
  unfold NoReplay
  rw [List.cons_append, List.pairwise_cons, List.pairwise_append]
  constructor
  · intro ⟨_, _, hlater, hcross⟩
    refine ⟨hlater, ?_⟩
    cases texts with
    | nil => exact .inl rfl
    | cons text texts =>
      exact .inr fun step hstep => hcross (.relayed text) (List.mem_cons_self ..) step hstep rfl
  · intro ⟨hlater, hquiet⟩
    refine ⟨fun _ _ h => (by cases h), ?_, hlater, fun step hstep later hmem hrelayed => ?_⟩
    · exact List.pairwise_map.2 (List.pairwise_of_forall fun _ _ _ => rfl)
    · obtain rfl | hquiet := hquiet
      · cases hstep
      · exact hquiet later hmem

theorem breaksUnstarted_succ {count : Nat} :
    BreaksUnstarted replies (count + 1) ↔ ((replies 0).passesOn = true →
      (0 < count → (replies 0).texts = []) ∧ BreaksUnstarted (fun index => replies (index + 1)) count) := by
  constructor
  · intro h hpasses
    refine ⟨fun hcount => h 0 (Nat.succ_lt_succ hcount) (fun _ hlt => absurd hlt (Nat.not_lt_zero _)) hpasses,
      fun index hindex hearlier => h (index + 1) (Nat.succ_lt_succ hindex) fun earlier hlt => ?_⟩
    cases earlier with
    | zero => exact hpasses
    | succ earlier => exact hearlier earlier (Nat.lt_of_succ_lt_succ hlt)
  · intro h index hindex hearlier hpasses
    cases index with
    | zero => exact (h hpasses).1 (Nat.lt_of_succ_lt_succ hindex)
    | succ index =>
      exact (h (hearlier 0 (Nat.succ_pos _))).2 index (Nat.lt_of_succ_lt_succ hindex)
        (fun earlier hlt => hearlier (earlier + 1) (Nat.succ_lt_succ hlt)) hpasses

theorem noReplay_lines (url : String) (texts : List String) : NoReplay (.requested url :: texts.map .relayed) := by
  rw [← List.append_nil (RelayStep.requested url :: texts.map .relayed)]
  exact noReplay_candidate.2 ⟨List.Pairwise.nil, .inr (List.forall_mem_nil _)⟩

theorem framed_isRequest (texts : List String) : ∀ step ∈ texts.map RelayStep.framed, step.isRequest = false :=
  List.forall_mem_map.2 fun _ _ => rfl

theorem noReplay_framed (texts : List String) : NoReplay (texts.map .framed) :=
  List.pairwise_map.2 (List.pairwise_of_forall fun _ _ h => by cases h)

variable {lastError : String}

theorem relayCandidates_asks {candidates : List (String × Bool)} :
    (∀ step ∈ (relayCandidates jsonText candidates replies lastError).1, step.isRequest = false) ↔ candidates = [] := by
  cases candidates with
  | nil => exact iff_of_true (framed_isRequest _) rfl
  | cons candidate rest =>
    obtain ⟨url, verify⟩ := candidate
    refine iff_of_false (fun h => ?_) (List.cons_ne_nil _ _)
    have hasked : RelayStep.requested url ∈ (relayCandidates jsonText ((url, verify) :: rest) replies lastError).1 := by
      unfold relayCandidates
      dsimp only
      split <;> exact List.mem_cons_self ..
    cases h _ hasked

theorem noReplay_relayCandidates_iff {candidates : List (String × Bool)} :
    NoReplay (relayCandidates jsonText candidates replies lastError).1 ↔ BreaksUnstarted replies candidates.length := by
  induction candidates generalizing replies lastError with
  | nil => exact iff_of_true (noReplay_framed _) fun _ hindex => absurd hindex (Nat.not_lt_zero _)
  | cons candidate rest ih =>
    obtain ⟨url, verify⟩ := candidate
    rw [List.length_cons, breaksUnstarted_succ, RelayReply.passesOn]
    unfold relayCandidates
    dsimp only
    cases (replies 0).verdict with
    | returned => exact iff_of_true (noReplay_lines _ _) fun h => by cases h
    | raised => exact iff_of_true (noReplay_lines _ _) fun h => by cases h
    | stop error =>
      exact iff_of_true (noReplay_candidate.2 ⟨noReplay_framed _, .inr (framed_isRequest _)⟩) fun h => by cases h
    | next error =>
      rw [noReplay_candidate, ih, relayCandidates_asks, List.length_pos_iff]
      refine ⟨fun ⟨hlater, hquiet⟩ _ => ⟨hquiet.resolve_right, hlater⟩, fun h => ⟨(h rfl).2, ?_⟩⟩
      by_cases hnone : rest = []
      · exact .inr hnone
      · exact .inl ((h rfl).1 hnone)

theorem shownTexts_candidate (url : String) (texts : List String) (later : List RelayStep) :
    shownTexts (.requested url :: texts.map .relayed ++ later) = texts ++ shownTexts later := by
  rw [List.cons_append, shownTexts, List.filterMap_cons_none rfl]
  exact (shownTexts_append _ _).trans (congrArg (· ++ shownTexts later) (shownTexts_relayed texts))

theorem text_relayCandidates {candidates : List (String × Bool)}
    (h : BreaksUnstarted replies candidates.length) : ∃ shown frames,
      shownTexts (relayCandidates jsonText candidates replies lastError).1 = shown ++ frames ∧
      (shown = [] ∨ ∃ index < candidates.length, shown = (replies index).texts) ∧
      (frames = [] ∨ ∃ message, frames = sseErrorFrames jsonText message "Stream request failed.") := by
  induction candidates generalizing replies lastError with
  | nil => exact ⟨[], _, shownTexts_framed _, .inl rfl, .inr ⟨_, rfl⟩⟩
  | cons candidate rest ih =>
    obtain ⟨url, verify⟩ := candidate
    have hfirst : ∃ index < ((url, verify) :: rest).length, (replies 0).texts = (replies index).texts :=
      ⟨0, Nat.succ_pos _, rfl⟩
    rw [List.length_cons, breaksUnstarted_succ, RelayReply.passesOn] at h
    unfold relayCandidates
    dsimp only
    cases hverdict : (replies 0).verdict with
    | returned =>
      exact ⟨(replies 0).texts, [], (shownTexts_relayed _).trans (List.append_nil _).symm, .inr hfirst, .inl rfl⟩
    | raised =>
      exact ⟨(replies 0).texts, [], (shownTexts_relayed _).trans (List.append_nil _).symm, .inr hfirst, .inl rfl⟩
    | stop error =>
      refine ⟨(replies 0).texts, failureFrames jsonText error, ?_, .inr hfirst, .inr ⟨_, rfl⟩⟩
      rw [shownTexts_candidate, shownTexts_framed]
    | next error =>
      rw [hverdict] at h
      obtain ⟨hunstarted, hrest⟩ := h rfl
      obtain ⟨shown, frames, hshown, hbody, hframes⟩ := ih hrest
      dsimp only
      rw [shownTexts_candidate]
      cases rest with
      | nil =>
        exact ⟨(replies 0).texts, failureFrames jsonText error, congrArg _ (shownTexts_framed _), .inr hfirst, .inr ⟨_, rfl⟩⟩
      | cons next rest =>
        refine ⟨shown, frames, ?_, hbody.imp_right fun ⟨index, hindex, htexts⟩ => ?_, hframes⟩
        · rw [hunstarted (Nat.succ_pos _), List.nil_append, hshown]
        · exact ⟨index + 1, Nat.succ_lt_succ hindex, htexts⟩

theorem relaysOnce_relayCandidates_iff {candidates : List (String × Bool)} :
    RelaysOnce jsonText replies candidates.length (relayCandidates jsonText candidates replies lastError).1 ↔
      BreaksUnstarted replies candidates.length :=
  ⟨fun h => noReplay_relayCandidates_iff.1 h.noReplay, fun h => ⟨noReplay_relayCandidates_iff.2 h, text_relayCandidates h⟩⟩

/-- Whatever the candidates, and so for those of a context. -/
theorem relay_once_iff (jsonText : String → String) (replies : Nat → RelayReply) :
    (∀ candidates lastError,
      RelaysOnce jsonText replies candidates.length (relayCandidates jsonText candidates replies lastError).1 ↔
        BreaksUnstarted replies candidates.length) ∧
    ∀ context path, RelaysOnce jsonText replies (contextCandidates context path).length
        (iterBackendSseLines jsonText replies context path).1 ↔
      (urlText context.httpUrl ≠ "" → BreaksUnstarted replies (contextCandidates context path).length) := by
  refine ⟨fun _ _ => relaysOnce_relayCandidates_iff, fun context path => ?_⟩
  unfold iterBackendSseLines
  split_ifs with hurl
  · refine iff_of_true ⟨noReplay_framed _, ?_⟩ fun h => absurd hurl h
    exact ⟨[], _, shownTexts_framed _, .inl rfl, .inr ⟨_, rfl⟩⟩
  · rw [relaysOnce_relayCandidates_iff]
    exact ⟨fun h _ => h, fun h => h hurl⟩

end Relay

/-! ### A body that breaks off -/

def twoUrls : BackendRequestContext where
  endpointId := none
  targetFingerprint := ""
  httpUrl := some "https://proxbox"
  ipAddressUrl := some "https://10.0.0.5"
  verifySsl := true
  headers := []

/-- The first backend is reset after a line, the second one answers. -/
def resetThenAnswered : Nat → RelayReply
  | 0 => .response 200 "" [some "event: step"] (some (.requestException "Connection reset by peer" false))
  | _ => .response 200 "" [some "event: step", some "event: complete"] none

/-- The sync is started a second time after a line of the first was relayed, and the browser sees both. -/
theorem broken_body_is_replayed :
    (iterBackendSseLines (fun text => text) resetThenAnswered twoUrls "full-update/stream").1 =
      [.requested "https://proxbox/full-update/stream", .relayed "event: step\n",
        .requested "https://10.0.0.5/full-update/stream", .relayed "event: step\n", .relayed "event: complete\n"] := by
  decide +kernel

end Proxbox
