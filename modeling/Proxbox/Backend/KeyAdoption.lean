import Proxbox.Backend.KeyTarget
import Proxbox.Library.Transaction
/-!
# Adoption of a backend key

`adopt_rotated_backend_key`: a candidate is taken over only after the backend has answered for it. An
initialised backend has to list its keys to the candidate, and one that has no key at all gets the candidate
registered, if the caller asked for that. The backend is a sequence of replies, of any shape and in any order.
-/

namespace Proxbox.BackendKey

open Python Transaction

inductive HttpError where
  | timeout
  | ssl
  | connection
  | other

/-- A reply; the body is `none` when `json()` raises. -/
structure Response where
  statusCode : Nat
  retryAfter : Option String
  body : Option Json

structure Replies where
  connect : Nat → Option HttpError
  reply : Nat → Except HttpError Response

inductive Request where
  | get (url : String) (apiKey : Option String) (verify : Bool)
  | post (url apiKey label : String) (verify : Bool)

def Request.isRegistration : Request → Bool
  | .post .. => true
  | .get .. => false

inductive AdoptionFault where
  | refused (error : BackendKeyAdoptionError)
  | unicodeEncodeError
  deriving DecidableEq

abbrev Exchange := Action AdoptionFault (List Request)

def checked {α : Type} (result : Except BackendKeyAdoptionError α) : Exchange α :=
  raising (result.mapError .refused)

def transportError : HttpError → BackendKeyAdoptionError
  | .timeout => adoptionError "backend_timeout" "The backend timed out; the previous API key was kept unchanged."
  | .ssl => adoptionError "backend_tls_error" "TLS verification failed; the previous API key was kept unchanged."
  | .connection => adoptionError "backend_unreachable"
      "The backend could not be reached; the previous API key was kept unchanged."
  | .other => adoptionError "backend_request_failed"
      "The backend request failed; the previous API key was kept unchanged."

inductive Phase where
  | bootstrap
  | bootstrapStatus
  | validation
  deriving DecidableEq

def Phase.text : Phase → String
  | .bootstrap => "bootstrap"
  | .bootstrapStatus => "bootstrap_status"
  | .validation => "validation"

def httpRejection (statusCode : Nat) (phase : Phase) (retryAfter : Option String) : BackendKeyAdoptionError :=
  if phase = .bootstrap ∧ statusCode = 409 then
    adoptionError "bootstrap_conflict"
      "The backend became initialized before registration completed; no key was persisted."
  else if statusCode = 401 ∨ statusCode = 403 then
    ⟨"candidate_rejected", "The candidate API key was rejected; the previous key was kept unchanged.",
      some statusCode, none⟩
  else if statusCode = 409 then
    adoptionError "candidate_conflict"
      "The backend rejected the key state transition; the previous key was kept unchanged."
  else if statusCode = 429 then
    ⟨"backend_throttled", "The backend throttled validation; wait before trying again. The previous key was kept "
      ++ "unchanged.", some statusCode, retryAfter⟩
  else
    ⟨phase.text ++ "_http_" ++ toString statusCode, "The backend rejected API-key " ++ phase.text ++ " with HTTP "
      ++ toString statusCode ++ "; the previous key was kept unchanged.", some statusCode, retryAfter⟩

section Exchange

variable (platform : Platform) (replies : Replies)

def hasLineBreak (text : String) : Bool := text.toList.any fun c => c = '\r' || c = '\n'

/-- What the client raises for the key of a request: `requests` refuses a line break in a header, and `http.client`
encodes a header as Latin-1 when it has a connection. -/
def headerFault (connect : Option HttpError) : Request → Option AdoptionFault
  | .get _ (some apiKey) _ =>
    if hasLineBreak apiKey then some (.refused (transportError .other))
    else if !isLatin1 apiKey && connect.isNone then some .unicodeEncodeError
    else none
  | _ => none

def send (request : Request) : Exchange Response := do
  let sent ← read
  match headerFault (replies.connect sent.length) request with
  | some fault => throw fault
  | none =>
    write (· ++ [request])
    match replies.connect sent.length, replies.reply sent.length with
    | none, .ok response => return response
    | some error, _ | none, .error error => throw (.refused (transportError error))

def statusInvalid : BackendKeyAdoptionError :=
  adoptionError "bootstrap_status_invalid" "The backend returned an invalid bootstrap status; no key was persisted."

def statusInconsistent : BackendKeyAdoptionError :=
  adoptionError "bootstrap_status_invalid" "The backend returned an inconsistent bootstrap status; no key was persisted."

def keyListInvalid : BackendKeyAdoptionError :=
  adoptionError "key_list_invalid"
    "The backend returned an invalid authenticated key list; the previous API key was kept unchanged."

def bootstrapInvalid : BackendKeyAdoptionError :=
  adoptionError "bootstrap_response_invalid"
    "The backend returned an invalid bootstrap response; verify the key before enabling the endpoint."

variable (response : Response)

/-- The two flags of a status reply, which have to differ; what is returned is `needs_bootstrap`. -/
def readStatus : Except BackendKeyAdoptionError Bool := do
  ensure (response.statusCode = 200) (httpRejection response.statusCode .bootstrapStatus response.retryAfter)
  match response.body with
  | some (.obj fields) =>
    match Fields.get fields "needs_bootstrap", Fields.get fields "has_db_keys" with
    | .bool needsBootstrap, .bool hasDbKeys =>
      ensure (needsBootstrap ≠ hasDbKeys) statusInconsistent
      return needsBootstrap
    | _, _ => throw statusInconsistent
  | _ => throw statusInvalid

def validKeyRecord : Json → Bool
  | .obj record =>
    (match Fields.get record "id" with | .int n => decide (0 < n) | _ => false) &&
    (match Fields.get record "label" with | .str _ => true | _ => false) &&
    (match Fields.get record "is_active" with | .bool _ => true | _ => false) &&
    (match Fields.get record "created_at" with | .int _ | .float _ => true | _ => false)
  | _ => false

def readKeyList : Except BackendKeyAdoptionError Unit := do
  ensure (response.statusCode = 200) (httpRejection response.statusCode .validation response.retryAfter)
  match response.body with
  | some (.obj fields) =>
    match Fields.get fields "keys" with
    | .arr keys => ensure (keys ≠ [] ∧ keys.all validKeyRecord) keyListInvalid
    | _ => throw keyListInvalid
  | _ => throw keyListInvalid

def readRegistration : Except BackendKeyAdoptionError Unit := do
  ensure (response.statusCode = 201) (httpRejection response.statusCode .bootstrap none)
  match response.body with
  | some (.obj fields) =>
    match Fields.get fields "detail" with
    | .str _ => return
    | _ => throw bootstrapInvalid
  | _ => throw bootstrapInvalid

inductive AdoptionAction where
  | adopted
  | bootstrapped
  deriving DecidableEq

structure BackendKeyAdoptionProof where
  fingerprint : String
  action : AdoptionAction
  targetFingerprint : String

def proofFingerprint (baseUrl : String) (verifySsl : Bool) (candidate : String) : String :=
  platform.sha256 (baseUrl ++ "\x00" ++ bit verifySsl ++ "\x00" ++ candidate)

inductive InspectionState where
  | accepted
  | needsBootstrap

def candidateMissing : BackendKeyAdoptionError := adoptionError "candidate_missing" "Provide a non-empty backend API key."

/-- `inspect_backend_key_at_url`: the state, and the fingerprint of the proof. -/
def inspectBackendKeyAtUrl (baseUrl : String) (verifySsl : Bool) (candidate : String) :
    Exchange (InspectionState × String) := do
  checked (ensure (strip candidate ≠ "") candidateMissing)
  let url ← checked (normalizeBackendBaseUrl platform baseUrl)
  let fingerprint := proofFingerprint platform url verifySsl (strip candidate)
  let status ← send replies (.get (url ++ "/auth/bootstrap-status") none verifySsl)
  if ← checked (readStatus status) then return (.needsBootstrap, fingerprint)
  let listing ← send replies (.get (url ++ "/auth/keys") (some (strip candidate)) verifySsl)
  checked (readKeyList listing)
  return (.accepted, fingerprint)

def registerBackendKeyAtUrl (baseUrl : String) (verifySsl : Bool) (candidate label : String) : Exchange Unit := do
  let url ← checked (normalizeBackendBaseUrl platform baseUrl)
  let response ← send replies (.post (url ++ "/auth/register-key") (strip candidate) label verifySsl)
  checked (readRegistration response)

def adoptBackendKeyAtUrl (baseUrl : String) (verifySsl : Bool) (candidate label : String) (bootstrapIfNeeded : Bool) :
    Exchange (AdoptionAction × String) := do
  match ← inspectBackendKeyAtUrl platform replies baseUrl verifySsl candidate with
  | (.accepted, fingerprint) => return (.adopted, fingerprint)
  | (.needsBootstrap, fingerprint) =>
    checked (ensure (bootstrapIfNeeded = true) (adoptionError "bootstrap_required" ("The backend has no API keys. "
      ++ "Provide an explicitly retained candidate for the one-time bootstrap operation.")))
    registerBackendKeyAtUrl platform replies baseUrl verifySsl candidate label
    return (.bootstrapped, fingerprint)

def Endpoint.label (endpoint : Endpoint) : String :=
  "netbox-fastapi-" ++ (endpoint.pk.map toString).getD "pending"

def adoptRotatedBackendKey (endpoint : Endpoint) (candidate : String) (bootstrapIfNeeded : Bool) :
    Exchange BackendKeyAdoptionProof := do
  checked (ensure (endpoint.enabled = true) (adoptionError "endpoint_disabled"
    "Enable the backend endpoint before adopting a replacement API key."))
  checked (ensure (strip candidate ≠ "") candidateMissing)
  let target ← checked (backendKeyTarget platform endpoint)
  let proof ← adoptBackendKeyAtUrl platform replies target.1 target.2 (strip candidate) endpoint.label bootstrapIfNeeded
  let targetFingerprint ← checked (backendKeyTargetFingerprint platform endpoint)
  return ⟨proof.2, proof.1, targetFingerprint⟩

end Exchange

/-! ### The protocol -/

section Protocol

variable {platform : Platform} {replies : Replies}

variable (reply : Except HttpError Response)

/-- The reply says that the backend has no key and waits for its first. -/
def ReportsUninitialised : Prop :=
  ∃ response fields, reply = .ok response ∧ response.statusCode = 200 ∧ response.body = some (.obj fields) ∧
    Fields.get fields "needs_bootstrap" = .bool true ∧ Fields.get fields "has_db_keys" = .bool false

def ListsKeys : Prop :=
  ∃ response fields keys, reply = .ok response ∧ response.statusCode = 200 ∧ response.body = some (.obj fields) ∧
    Fields.get fields "keys" = .arr keys ∧ keys ≠ [] ∧ ∀ key ∈ keys, validKeyRecord key = true

def ReportsCreation : Prop :=
  ∃ response fields detail, reply = .ok response ∧ response.statusCode = 201 ∧ response.body = some (.obj fields) ∧
    Fields.get fields "detail" = .str detail

theorem readStatus_eq_ok {response : Response} (h : readStatus response = .ok true) :
    ReportsUninitialised (.ok response) := by
  unfold readStatus at h
  obtain ⟨_, hstatus, h⟩ := bind_eq_ok.mp h
  split at h
  · rename_i fields hbody
    split at h
    · rename_i needsBootstrap hasDbKeys hneeds hkeys
      obtain ⟨_, hdiffer, h⟩ := bind_eq_ok.mp h
      obtain rfl := Except.ok.inj h
      have hfalse : hasDbKeys = false := by simpa using ensure_eq_ok.mp hdiffer
      exact ⟨response, fields, rfl, ensure_eq_ok.mp hstatus, hbody, hneeds, hfalse ▸ hkeys⟩
    · cases h
  · cases h

theorem readKeyList_eq_ok {response : Response} (h : readKeyList response = .ok ()) : ListsKeys (.ok response) := by
  unfold readKeyList at h
  obtain ⟨_, hstatus, h⟩ := bind_eq_ok.mp h
  split at h
  · rename_i fields hbody
    split at h
    · rename_i keys hkeys
      obtain ⟨hne, hall⟩ := ensure_eq_ok.mp h
      exact ⟨response, fields, keys, rfl, ensure_eq_ok.mp hstatus, hbody, hkeys, hne, List.all_eq_true.mp hall⟩
    · cases h
  · cases h

theorem readRegistration_eq_ok {response : Response} (h : readRegistration response = .ok ()) :
    ReportsCreation (.ok response) := by
  unfold readRegistration at h
  obtain ⟨_, hstatus, h⟩ := bind_eq_ok.mp h
  split at h
  · rename_i fields hbody
    split at h
    · rename_i detail hdetail
      exact ⟨response, fields, detail, rfl, ensure_eq_ok.mp hstatus, hbody, hdetail⟩
    · cases h
  · cases h

theorem wp_send {request : Request} {sent : List Request} {value : List Request → Response → Prop}
    {raised : List Request → AdoptionFault → Prop}
    (hvalue : ∀ response, replies.reply sent.length = .ok response → value (sent ++ [request]) response)
    (hunsent : ∀ fault, raised sent fault) (hraised : ∀ fault, raised (sent ++ [request]) fault) :
    wp (send replies request) sent value raised := by
  simp only [send, wp_bind, wp_read]
  cases headerFault (replies.connect sent.length) request with
  | some fault => exact wp_throw.mpr (hunsent fault)
  | none =>
    simp only [wp_bind, wp_write]
    cases replies.connect sent.length with
    | some error => exact wp_throw.mpr (hraised _)
    | none =>
      cases hreply : replies.reply sent.length with
      | ok response => exact wp_pure.mpr (hvalue response hreply)
      | error error => exact wp_throw.mpr (hraised _)

theorem wp_checked {α : Type} {result : Except BackendKeyAdoptionError α} {sent : List Request}
    {value : List Request → α → Prop} {raised : List Request → AdoptionFault → Prop} :
    wp (checked result) sent value raised ↔
      (∀ a, result = .ok a → value sent a) ∧ ∀ e, result = .error e → raised sent (.refused e) := by
  cases result <;> simp [checked, Except.mapError]

def statusRequest (url : String) (verify : Bool) : Request := .get (url ++ "/auth/bootstrap-status") none verify

def listingRequest (url candidate : String) (verify : Bool) : Request :=
  .get (url ++ "/auth/keys") (some candidate) verify

def registration (url candidate label : String) (verify : Bool) : Request :=
  .post (url ++ "/auth/register-key") candidate label verify

/-- At most one registration, and only one that was asked for, to a backend that reported no key. -/
def Conforms (replies : Replies) (bootstrapIfNeeded : Bool) (sent : List Request) : Prop :=
  sent.countP Request.isRegistration ≤ 1 ∧
    ∀ request ∈ sent, request.isRegistration = true → bootstrapIfNeeded = true ∧ ReportsUninitialised (replies.reply 0)

theorem conforms_of_gets {bootstrapIfNeeded : Bool} {sent : List Request}
    (h : ∀ request ∈ sent, request.isRegistration = false) : Conforms replies bootstrapIfNeeded sent := by
  refine ⟨?_, fun request hmem hpost => ?_⟩
  · rw [List.countP_eq_zero.mpr fun request hmem => by simp [h request hmem]]
    exact Nat.zero_le 1
  · rw [h request hmem] at hpost
    cases hpost

def Reached (replies : Replies) (url : String) (verify : Bool) (candidate label : String) (sent : List Request) :
    AdoptionAction → Prop
  | .adopted => sent = [statusRequest url verify, listingRequest url candidate verify] ∧ ListsKeys (replies.reply 1)
  | .bootstrapped => sent = [statusRequest url verify, registration url candidate label verify] ∧
      ReportsUninitialised (replies.reply 0) ∧ ReportsCreation (replies.reply 1)

variable {bootstrapIfNeeded : Bool} {baseUrl candidate label : String} {verifySsl : Bool}

theorem inspectBackendKeyAtUrl_spec (label : String) :
    wp (inspectBackendKeyAtUrl platform replies baseUrl verifySsl candidate) []
      (fun sent result => ∃ url, normalizeBackendBaseUrl platform baseUrl = .ok url ∧
        result.2 = proofFingerprint platform url verifySsl (strip candidate) ∧
        match result.1 with
        | .accepted => Reached replies url verifySsl (strip candidate) label sent .adopted
        | .needsBootstrap => sent = [statusRequest url verifySsl] ∧ ReportsUninitialised (replies.reply 0))
      fun sent _ => Conforms replies bootstrapIfNeeded sent := by
  have hempty : Conforms replies bootstrapIfNeeded [] := conforms_of_gets (by simp)
  simp only [inspectBackendKeyAtUrl, wp_bind, wp_checked, wp_ite, wp_pure]
  refine ⟨fun _ _ => ⟨fun url hurl => ?_, fun _ _ => hempty⟩, fun _ _ => hempty⟩
  have hstatus : Conforms replies bootstrapIfNeeded [statusRequest url verifySsl] :=
    conforms_of_gets (by simp [statusRequest, Request.isRegistration])
  have hlisting : Conforms replies bootstrapIfNeeded
      [statusRequest url verifySsl, listingRequest url (strip candidate) verifySsl] :=
    conforms_of_gets (by simp [statusRequest, listingRequest, Request.isRegistration])
  refine wp_send (fun status hreply => ⟨fun needsBootstrap hread => ⟨fun hneeds => ?_, fun _ => ?_⟩, fun _ _ => hstatus⟩)
    (fun _ => hempty) fun _ => hstatus
  · subst hneeds
    refine ⟨url, hurl, rfl, rfl, ?_⟩
    rw [show replies.reply 0 = .ok status from hreply]
    exact readStatus_eq_ok hread
  · refine wp_send (fun listing hreply' => ⟨fun _ hlisted => ⟨url, hurl, rfl, rfl, ?_⟩, fun _ _ => hlisting⟩)
      (fun _ => hstatus) fun _ => hlisting
    rw [show replies.reply 1 = .ok listing from hreply']
    exact readKeyList_eq_ok hlisted

theorem adoptBackendKeyAtUrl_spec :
    wp (adoptBackendKeyAtUrl platform replies baseUrl verifySsl candidate label bootstrapIfNeeded) []
      (fun sent result => Conforms replies bootstrapIfNeeded sent ∧
        ∃ url, normalizeBackendBaseUrl platform baseUrl = .ok url ∧
          result.2 = proofFingerprint platform url verifySsl (strip candidate) ∧
          Reached replies url verifySsl (strip candidate) label sent result.1)
      fun sent _ => Conforms replies bootstrapIfNeeded sent := by
  rw [adoptBackendKeyAtUrl, wp_bind]
  refine wp_mono (inspectBackendKeyAtUrl_spec label) ?_ fun _ _ h => h
  rintro sent ⟨state, fingerprint⟩ ⟨url, hurl, hfingerprint, hinspected⟩
  cases state with
  | accepted =>
    refine wp_pure.mpr ⟨?_, url, hurl, hfingerprint, hinspected⟩
    obtain ⟨rfl, -⟩ := hinspected
    exact conforms_of_gets (by simp [statusRequest, listingRequest, Request.isRegistration])
  | needsBootstrap =>
    obtain ⟨rfl, huninitialised⟩ := hinspected
    have hstatus : Conforms replies bootstrapIfNeeded [statusRequest url verifySsl] :=
      conforms_of_gets (by simp [statusRequest, Request.isRegistration])
    simp only [registerBackendKeyAtUrl, wp_bind, wp_checked, wp_pure]
    refine ⟨fun _ hasked => ⟨fun url' hurl' => ?_, fun _ _ => hstatus⟩, fun _ _ => hstatus⟩
    obtain rfl := Except.ok.inj (hurl.symm.trans hurl')
    have hposted : Conforms replies bootstrapIfNeeded
        [statusRequest url verifySsl, registration url (strip candidate) label verifySsl] :=
      ⟨by simp [statusRequest, registration, Request.isRegistration, List.countP_cons],
        fun _ _ _ => ⟨ensure_eq_ok.mp hasked, huninitialised⟩⟩
    refine wp_send (fun response hreply => ⟨fun _ hcreated => ⟨hposted, ?_⟩, fun _ _ => hposted⟩) (fun _ => hstatus)
      fun _ => hposted
    refine ⟨url, hurl, hfingerprint, rfl, huninitialised, ?_⟩
    rw [show replies.reply 1 = .ok response from hreply]
    exact readRegistration_eq_ok hcreated

structure Proves (platform : Platform) (replies : Replies) (endpoint : Endpoint) (candidate : String)
    (sent : List Request) (proof : BackendKeyAdoptionProof) : Prop where
  nonblank : strip candidate ≠ ""
  target : ∃ target url, backendKeyTarget platform endpoint = .ok target ∧
    normalizeBackendBaseUrl platform target.1 = .ok url ∧
    proof.fingerprint = proofFingerprint platform url target.2 (strip candidate) ∧
    Reached replies url target.2 (strip candidate) endpoint.label sent proof.action
  targetFingerprint : backendKeyTargetFingerprint platform endpoint = .ok proof.targetFingerprint

theorem adoptRotatedBackendKey_spec {endpoint : Endpoint} :
    wp (adoptRotatedBackendKey platform replies endpoint candidate bootstrapIfNeeded) []
      (fun sent proof => Conforms replies bootstrapIfNeeded sent ∧ Proves platform replies endpoint candidate sent proof)
      fun sent _ => Conforms replies bootstrapIfNeeded sent := by
  have hempty : Conforms replies bootstrapIfNeeded [] := conforms_of_gets (by simp)
  rw [adoptRotatedBackendKey, wp_bind, wp_checked]
  refine ⟨fun _ _ => ?_, fun _ _ => hempty⟩
  rw [wp_bind, wp_checked]
  refine ⟨fun _ hcandidate => ?_, fun _ _ => hempty⟩
  rw [wp_bind, wp_checked]
  refine ⟨fun target htarget => ?_, fun _ _ => hempty⟩
  rw [wp_bind]
  refine wp_mono adoptBackendKeyAtUrl_spec (fun sent result h => ?_) fun _ _ h => h
  rw [strip_strip] at h
  obtain ⟨hconforms, url, hurl, hfingerprint, hreached⟩ := h
  rw [wp_bind, wp_checked]
  refine ⟨fun targetFingerprint hdigest => wp_pure.mpr ⟨hconforms, ?_⟩, fun _ _ => hconforms⟩
  exact ⟨ensure_eq_ok.mp hcandidate, ⟨target, url, htarget, hurl, hfingerprint, hreached⟩, hdigest⟩

/-! ### Two candidates -/

/-- Requests are answered by their position alone. -/
def SameLength (sent sent' : List Request) : Prop := sent.length = sent'.length

def FitsHeader (key : String) : Prop := hasLineBreak key = false ∧ isLatin1 key = true

theorem headerFault_eq_none {connect : Option HttpError} {request : Request}
    (h : ∀ url key verify, request = .get url (some key) verify → FitsHeader key) :
    headerFault connect request = none := by
  unfold headerFault
  split
  · obtain ⟨hbreak, hlatin⟩ := h _ _ _ rfl
    simp [hbreak, hlatin]
  · rfl

theorem coupled_checked {α : Type} (result : Except BackendKeyAdoptionError α) :
    Coupled SameLength Eq (checked result) (checked result) := coupled_raising _

theorem coupled_send {request request' : Request}
    (h : ∀ url key verify, request = .get url (some key) verify → FitsHeader key)
    (h' : ∀ url key verify, request' = .get url (some key) verify → FitsHeader key) :
    Coupled SameLength Eq (send replies request) (send replies request') := by
  have hsend {request : Request} (h : ∀ url key verify, request = .get url (some key) verify → FitsHeader key)
      (sent : List Request) : send replies request sent =
        ((match replies.connect sent.length, replies.reply sent.length with
          | none, .ok response => .ok response
          | some error, _ | none, .error error => .error (.refused (transportError error)) :
            Except AdoptionFault Response), sent ++ [request]) := by
    unfold send
    rw [bind_apply]
    change (match headerFault (replies.connect sent.length) request with
      | some fault => (throw fault : Exchange Response)
      | none => _) sent = _
    rw [headerFault_eq_none h]
    change ((write (· ++ [request]) : Exchange Unit) >>= fun _ => _) sent = _
    rw [bind_apply]
    change (match replies.connect sent.length, replies.reply sent.length with
      | none, .ok response => (pure response : Exchange Response)
      | some error, _ | none, .error error => throw (AdoptionFault.refused (transportError error))) (sent ++ [request]) = _
    cases replies.connect sent.length <;> cases replies.reply sent.length <;> rfl
  unfold Coupled
  intro sent sent' hlength
  have hlength' : SameLength (sent ++ [request]) (sent' ++ [request']) := by
    simpa [SameLength] using hlength
  rw [hsend h, hsend h', show sent'.length = sent.length from hlength.symm]
  cases replies.connect sent.length <;> cases replies.reply sent.length <;> exact ⟨rfl, hlength'⟩

def Sendable (candidate : String) : Prop := strip candidate ≠ "" ∧ FitsHeader (strip candidate)

theorem Sendable.stripped (h : Sendable candidate) : Sendable (strip candidate) := by
  rw [Sendable, strip_strip]
  exact h

variable {other : String}

theorem coupled_inspect (hcandidate : Sendable candidate) (hother : Sendable other) :
    Coupled SameLength (fun result result' => result.1 = result'.1)
      (inspectBackendKeyAtUrl platform replies baseUrl verifySsl candidate)
      (inspectBackendKeyAtUrl platform replies baseUrl verifySsl other) := by
  unfold inspectBackendKeyAtUrl
  rw [ensure, ensure, if_pos hcandidate.1, if_pos hother.1]
  refine coupled_bind _ (coupled_checked _) fun _ _ _ => coupled_bind _ (coupled_checked _) ?_
  rintro url _ rfl
  refine coupled_bind _ (coupled_send nofun nofun) ?_
  rintro status _ rfl
  refine coupled_bind _ (coupled_checked _) ?_
  rintro needsBootstrap _ rfl
  cases needsBootstrap with
  | true => exact coupled_pure rfl
  | false =>
    refine coupled_bind _ (coupled_send ?_ ?_) ?_
    · rintro _ _ _ ⟨⟩
      exact hcandidate.2
    · rintro _ _ _ ⟨⟩
      exact hother.2
    rintro listing _ rfl
    exact coupled_bind _ (coupled_checked _) fun _ _ _ => coupled_pure rfl

theorem coupled_register : Coupled SameLength Eq
    (registerBackendKeyAtUrl platform replies baseUrl verifySsl candidate label)
    (registerBackendKeyAtUrl platform replies baseUrl verifySsl other label) := by
  unfold registerBackendKeyAtUrl
  refine coupled_bind _ (coupled_checked _) fun _ _ _ => coupled_bind _ (coupled_send nofun nofun) ?_
  rintro response _ rfl
  exact coupled_checked _

theorem coupled_adoptAtUrl (hcandidate : Sendable candidate) (hother : Sendable other) :
    Coupled SameLength (fun result result' => result.1 = result'.1)
      (adoptBackendKeyAtUrl platform replies baseUrl verifySsl candidate label bootstrapIfNeeded)
      (adoptBackendKeyAtUrl platform replies baseUrl verifySsl other label bootstrapIfNeeded) := by
  refine coupled_bind _ (coupled_inspect hcandidate hother) ?_
  rintro ⟨state, fingerprint⟩ ⟨_, fingerprint'⟩ rfl
  cases state with
  | accepted => exact coupled_pure rfl
  | needsBootstrap =>
    exact coupled_bind _ (coupled_checked _) fun _ _ _ => coupled_bind _ coupled_register fun _ _ _ => coupled_pure rfl

theorem coupled_adopt {endpoint : Endpoint} (hcandidate : Sendable candidate) (hother : Sendable other) :
    Coupled SameLength (fun proof proof' => proof.action = proof'.action)
      (adoptRotatedBackendKey platform replies endpoint candidate bootstrapIfNeeded)
      (adoptRotatedBackendKey platform replies endpoint other bootstrapIfNeeded) := by
  unfold adoptRotatedBackendKey
  refine coupled_bind _ (coupled_checked _) fun _ _ _ => ?_
  rw [ensure, ensure, if_pos hcandidate.1, if_pos hother.1]
  refine coupled_bind _ (coupled_checked _) fun _ _ _ => coupled_bind _ (coupled_checked _) ?_
  rintro target _ rfl
  refine coupled_bind _ (coupled_adoptAtUrl hcandidate.stripped hother.stripped) fun _ _ hsame => ?_
  exact coupled_bind _ (coupled_checked _) fun _ _ _ => coupled_pure hsame

end Protocol

/-- An adoption registers at most once, only when asked to and at a backend that reported no key, and what it
raises is the same for every candidate that can be sent. -/
theorem adoption_protocol (platform : Platform) (replies : Replies) (endpoint : Endpoint) (candidate : String)
    (bootstrapIfNeeded : Bool) :
    wp (adoptRotatedBackendKey platform replies endpoint candidate bootstrapIfNeeded) []
      (fun sent proof => Conforms replies bootstrapIfNeeded sent ∧
        ∃ url verify label, Reached replies url verify (strip candidate) label sent proof.action)
      (fun sent _ => Conforms replies bootstrapIfNeeded sent) ∧
    ∀ other, Sendable candidate → Sendable other →
      raisedBy (adoptRotatedBackendKey platform replies endpoint candidate bootstrapIfNeeded) []
        = raisedBy (adoptRotatedBackendKey platform replies endpoint other bootstrapIfNeeded) [] := by
  refine ⟨wp_mono adoptRotatedBackendKey_spec (fun sent proof h => ⟨h.1, ?_⟩) fun _ _ h => h, fun _ hcandidate hother =>
    raisedBy_eq_of_coupled (coupled_adopt hcandidate hother) rfl⟩
  obtain ⟨target, url, -, -, -, hreached⟩ := h.2.target
  exact ⟨url, target.2, endpoint.label, hreached⟩

def localPlatform : Platform where
  lower := lower
  ipAddress _ := none
  urlsplit _ := some ⟨"http", "localhost:8800", some "localhost", none, none, "", "", "", some 8800⟩
  sha256 := id

def localEndpoint : Endpoint := ⟨some 3, true, "localhost", none, 8800, false, true, false, "", none, false⟩

def freshBackend : Replies where
  connect _ := none
  reply
    | 0 => .ok ⟨200, none, some (.obj [("needs_bootstrap", .bool true), ("has_db_keys", .bool false)])⟩
    | _ => .ok ⟨201, none, some (.obj [("detail", .str "created")])⟩

def succeedsWith (action : AdoptionAction) (outcome : Except AdoptionFault BackendKeyAdoptionProof) : Bool :=
  match outcome with
  | .ok proof => proof.action = action
  | .error _ => false

theorem freshBackend_bootstrapped :
    succeedsWith .bootstrapped (adoptRotatedBackendKey localPlatform freshBackend localEndpoint "s3cret" true []).1 = true ∧
      raisedBy (adoptRotatedBackendKey localPlatform freshBackend localEndpoint "s3cret" true) []
        = raisedBy (adoptRotatedBackendKey localPlatform freshBackend localEndpoint "other" true) [] :=
  ⟨by decide +kernel,
    (adoption_protocol localPlatform freshBackend localEndpoint "s3cret" true).2 "other"
      (by unfold Sendable FitsHeader; decide +kernel) (by unfold Sendable FitsHeader; decide +kernel)⟩

def initialisedBackend : Replies where
  connect _ := none
  reply _ := .ok ⟨200, none, some (.obj [("needs_bootstrap", .bool false), ("has_db_keys", .bool true)])⟩

/-- A key that cannot be a header ends with the exception of the encoder. -/
example : raisedBy (adoptRotatedBackendKey localPlatform initialisedBackend localEndpoint "Łkey" false) [] =
    some .unicodeEncodeError := by decide +kernel

/-- The messages are fixed texts, and a candidate may be a word of one. -/
theorem candidate_in_message :
    (raisedBy (adoptRotatedBackendKey localPlatform ⟨fun _ => none, fun _ => .error .timeout⟩ localEndpoint "key" true)
      []).any (fun
        | .refused error => contains "key" error.userMessage
        | .unicodeEncodeError => false) = true := by
  decide +kernel

end Proxbox.BackendKey
