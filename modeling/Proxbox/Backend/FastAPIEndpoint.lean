import Proxbox.Backend.KeyAdoption
import Proxbox.Backend.TargetIdentity
import Proxbox.Encryption.Invariant
/-!
# The key transition of a FastAPI endpoint

What `FastAPIEndpoint.save` decides before it writes: `require_backend_target_edit_authority`, on the instance
as it stands in memory, and `prepare_backend_key_transition`, on the row as the save will leave it, that is the
stored row with the fields of `update_fields` taken from the instance. The write itself is
`fastAPIEndpointSave`; the token is held in the database.
-/

namespace Proxbox.BackendKey

open Python Transaction Encryption

def flagOf : Value → Bool
  | .flag b => b
  | _ => false

def textOf : Value → String
  | .text s => s
  | _ => ""

def numberOf : Value → Option Int
  | .number n => some n
  | _ => none

structure AddressTable where
  address : Int → Option String
  nulFree : ∀ id value, address id = some value → NulFree value

def endpointOf (addresses : AddressTable) (pk : Option Int) (columns : String → Value) : Endpoint :=
  ⟨pk, flagOf (columns "enabled"), textOf (columns "domain"), (numberOf (columns "ip_address_id")).bind addresses.address,
    ((numberOf (columns "port")).getD 0).toNat, flagOf (columns "use_https"), flagOf (columns "verify_ssl"),
    flagOf (columns "use_websocket"), textOf (columns "websocket_domain"),
    (numberOf (columns "websocket_port")).map Int.toNat, flagOf (columns "server_side_websocket")⟩

def storedFingerprint (row : Row) : String := textOf (row.columns "backend_key_target_fingerprint")

/-- What a save meets: the replies of the backend, a fresh token, Fernet key and primary key. -/
structure Choice where
  replies : Replies
  generated : String
  generatedKey : GeneratedKey
  nextPk : Int

/-- The user of the request; a save outside a request has none, who may do nothing. -/
structure Actor where
  sensitive : Bool
  change : Bool
  inScope : Int → Bool

def nobody : Actor := ⟨false, false, fun _ => false⟩

inductive TransitionAction where
  | rejectDisabledChange
  | noRemoteCheck
  | preflight

def planBackendKeyTransition (rowExists currentEnabled previousEnabled tokenChanged connectionChanged : Bool) :
    TransitionAction :=
  if !currentEnabled then
    if rowExists && tokenChanged then .rejectDisabledChange else .noRemoteCheck
  else if !rowExists || !previousEnabled || tokenChanged || connectionChanged then .preflight
  else .noRemoteCheck

section Save

variable {ν : Type} (platform : Platform) (env : Environment ν) (cipher : Cipher ν) (key : String)
  (addresses : AddressTable) (choice : Choice) (actor : Actor) (inst : Instance)

/-- `backend_key_proof_matches`; the second comparison is made only after the first holds, and may raise. -/
def backendKeyProofMatches (proof : BackendKeyAdoptionProof) (endpoint : Endpoint) (candidate : String) :
    Except BackendKeyAdoptionError Bool :=
  match backendKeyTarget platform endpoint with
  | .error _ => .ok false
  | .ok target =>
    if proof.fingerprint = proofFingerprint platform target.1 target.2 (strip candidate) then do
      return proof.targetFingerprint = (← backendKeyTargetFingerprint platform endpoint)
    else .ok false

def uncaught (error : BackendKeyAdoptionError) : Failure := .adoption error.code error.userMessage

/-! ### The authority -/

def requirePermissions (pk : Int) : Except Failure Unit := do
  ensure (actor.sensitive = true) (.permissionDenied "Sensitive data access is not authorized.")
  ensure (actor.change = true) (.permissionDenied "Backend change permission is required to approve a new target.")
  ensure (actor.inScope pk = true)
    (.permissionDenied "Backend target approval is not authorized for this endpoint.")

def requireTargetAuthority (pk : Int) (previous : Row) : Except Failure Unit := do
  let target ← (backendKeyTargetFingerprint platform (endpointOf addresses (some pk) inst.columns)).mapError uncaught
  let current ←
    (backendKeyTargetFingerprint platform (endpointOf addresses (some pk) previous.columns)).mapError uncaught
  if current = target ∧ storedFingerprint previous = target then return
  requirePermissions actor pk

def requireBackendTargetEditAuthority (previous : Option Row) : Except Failure Unit :=
  match inst.pk with
  | none => .ok ()
  | some pk =>
    if !flagOf (inst.columns "enabled") then .ok ()
    else
      match previous with
      | none => .ok ()
      | some previous => requireTargetAuthority platform addresses actor inst pk previous

/-! ### The transition -/

def tokenOf (secrets : String → String) : Except EncryptionError String := decrypt cipher (secrets "token_enc") key

def suppliedCandidate (candidate : Option String) : Except Failure (Option String) :=
  match candidate with
  | some candidate => .ok (some (strip candidate))
  | none =>
    if inst.tokenAssigned then do
      return some (strip (← (tokenOf cipher key inst.secrets).mapError .encryption))
    else .ok none

def previousToken (supplied : Option String) : Option Row → Except Failure String
  | none => .ok ""
  | some previous =>
    match tokenOf cipher key previous.secrets with
    | .ok token => .ok (strip token)
    | .error _ => do
        ensure (supplied.getD "" ≠ "") (.validation "token" ("The stored backend key cannot be decrypted. Submit an "
          ++ "explicit replacement key for this exact enabled target, or use destructive recovery."))
        return ""

variable (updateFields : Option (List String))

def effectiveRow : Option Row → Row
  | none => ⟨inst.secrets, inst.columns⟩
  | some previous => inst.onto updateFields previous

/-- `_effective_backend_key_endpoint`: the address has to be there. -/
def effectiveBackendKeyEndpoint (row : Row) : Except Failure Endpoint := do
  ensure ((numberOf (row.columns "ip_address_id")).all fun id => (addresses.address id).isSome)
    (.validation "ip_address" "The selected backend IP address no longer exists.")
  return endpointOf addresses inst.pk row.columns

def effectiveAllowed (effective : Endpoint) : Except Failure Unit := do
  ensure (!effective.serverSideWebsocket || effective.useWebsocket)
    (.validation "server_side_websocket" "Enable WebSocket before enabling the server-side WebSocket client.")
  if effective.websocketDomain ≠ "" then
    let _ ← (canonicalBackendAuthority platform effective.websocketDomain).mapError
      fun error => .validation "websocket_domain" error.userMessage
  ensure (effective.websocketPort.all fun port => 1 ≤ port ∧ port ≤ 65535)
    (.validation "websocket_port" "Configure a valid WebSocket port.")

def connectionChanged (row : Row) (effective : Endpoint) : Option Row → Bool
  | none => false
  | some previous =>
    let current := match backendKeyTargetFingerprint platform effective with
      | .ok fingerprint => fingerprint
      | .error _ => ""
    backendConnectionIdentity env row ≠ backendConnectionIdentity env previous ||
      storedFingerprint previous = "" || storedFingerprint previous ≠ current

def proofFor (held : Option BackendKeyAdoptionProof) (effective : Endpoint) (candidate : String) :
    Except Failure BackendKeyAdoptionProof := do
  if let some proof := held then
    if ← (backendKeyProofMatches platform proof effective candidate).mapError uncaught then return proof
  match (adoptRotatedBackendKey platform choice.replies effective candidate true []).1 with
  | .ok proof => return proof
  | .error (.refused error) => throw (.validation "token" error.userMessage)
  | .error .unicodeEncodeError => throw .valueError

/-- `prepare_backend_key_transition` once the row is known to be the one that was loaded: what it assigns to
`token_enc` and to the fingerprint. -/
def prepareBackendKeyTransition (held : Option BackendKeyAdoptionProof) (candidate : Option String)
    (previous : Option Row) : Except Failure (TokenWrite × String) := do
  let supplied ← suppliedCandidate cipher key inst candidate
  let stored ← previousToken cipher key supplied previous
  ensure (previous.isNone ∨ supplied.isSome ∨ inst.loaded.all (·.secrets "token_enc" = inst.secrets "token_enc"))
    (.validation "token" directTokenMessage)
  ensure (previous.isNone ∨ writes updateFields "token_enc" = true ∨ supplied.all (· = stored))
    (.validation "update_fields"
      "A replacement backend key cannot be supplied when token_enc is excluded from update_fields.")
  let current := supplied.getD stored
  let row := effectiveRow inst updateFields previous
  let effective ← effectiveBackendKeyEndpoint addresses inst row
  effectiveAllowed platform effective
  ensure (previous.isSome ∨ effective.enabled = true ∨ supplied.getD "" = "") (.validation "token"
    "Do not stage a backend key on a disabled new endpoint; resubmit it explicitly when enabling the endpoint.")
  match planBackendKeyTransition previous.isSome effective.enabled (previous.any (flagOf <| ·.columns "enabled"))
    (current ≠ stored) (connectionChanged platform env row effective previous) with
  | .rejectDisabledChange => throw (.validation "token"
      "Enable the backend endpoint and validate the replacement key before changing its stored value.")
  | .noRemoteCheck => return (if previous.isSome then .keep else .blank, (previous.map storedFingerprint).getD "")
  | .preflight =>
    if supplied.getD "" = "" then
      return (if previous.isSome && stored ≠ "" then .keep else .fresh choice.generated, "")
    let proof ← proofFor platform choice held effective current
    -- another candidate than the stored one comes with `token_enc` selected, as was checked above
    return (if previous.isSome && current = stored then .keep else .fresh current, proof.targetFingerprint)

def transition (held : Option BackendKeyAdoptionProof) : Transition where
  openbao := false
  token := (tokenOf cipher key inst.secrets).mapError .encryption
  authority := requireBackendTargetEditAuthority platform addresses actor inst
  outcome := prepareBackendKeyTransition platform env cipher key addresses choice inst updateFields held none
  generatedKey := choice.generatedKey

/-- `FastAPIEndpoint.save` by this user, with the proof of an adoption in memory or without one. -/
def save (held : Option BackendKeyAdoptionProof) : Step Unit := do
  let db ← read
  fastAPIEndpointSave env cipher
    (transition platform env cipher db.currentKey addresses choice actor inst updateFields held) choice.nextPk inst
    updateFields

/-- Whether a save goes through the gate: one restricted to other fields does not. -/
def gated : Bool := inst.pk.isNone || updateFields.all updatesBackendKeyState

end Save

/-! ### The authority behind a changed target -/

section Authority

variable {ν : Type} {platform : Platform} {env : Environment ν} {cipher : Cipher ν} {addresses : AddressTable}
  {choice : Choice} {actor : Actor} {inst : Instance} {updateFields : Option (List String)} {db : Database} {pk : Int}
  {stored : Row}

theorem mapError_eq_ok {ε ε' α : Type} {wrap : ε → ε'} {result : Except ε α} {value : α} :
    result.mapError wrap = .ok value ↔ result = .ok value := by
  cases result <;> simp [Except.mapError]

theorem requirePermissions_eq_ok (h : requirePermissions actor pk = .ok ()) :
    actor.sensitive = true ∧ actor.change = true := by
  unfold requirePermissions at h
  obtain ⟨_, hsensitive, h⟩ := bind_eq_ok.mp h
  obtain ⟨_, hchange, -⟩ := bind_eq_ok.mp h
  exact ⟨ensure_eq_ok.mp hsensitive, ensure_eq_ok.mp hchange⟩

/-- Without the permissions, the instance and the row have the target the key was adopted for. -/
theorem requireTargetAuthority_cases (h : requireTargetAuthority platform addresses actor inst pk stored = .ok ()) :
    (backendKeyTargetFingerprint platform (endpointOf addresses (some pk) inst.columns)
        = .ok (storedFingerprint stored) ∧
      backendKeyTargetFingerprint platform (endpointOf addresses (some pk) stored.columns)
        = .ok (storedFingerprint stored)) ∨
    actor.sensitive = true ∧ actor.change = true := by
  unfold requireTargetAuthority at h
  obtain ⟨target, htarget, h⟩ := bind_eq_ok.mp h
  obtain ⟨current, hcurrent, h⟩ := bind_eq_ok.mp h
  rw [mapError_eq_ok] at htarget hcurrent
  split_ifs at h with hsame
  · obtain ⟨rfl, hstored⟩ := hsame
    rw [hstored]
    exact .inl ⟨htarget, hcurrent⟩
  · exact .inr (requirePermissions_eq_ok h)

theorem endpointOf_nulFree (pk : Option Int) (columns : String → Value) : (endpointOf addresses pk columns).NulFree := by
  intro value hvalue
  obtain ⟨id, -, haddress⟩ := Option.bind_eq_some_iff.mp hvalue
  exact addresses.nulFree id value haddress

theorem onto_mixed (inst : Instance) (updateFields : Option (List String)) (stored : Row) (pk : Option Int) :
    Mixed (endpointOf addresses pk inst.columns) (endpointOf addresses pk stored.columns)
      (endpointOf addresses pk (inst.onto updateFields stored).columns) := by
  have hcolumn : ∀ {α : Type} (read : Value → α) (name : String),
      read ((inst.onto updateFields stored).columns name) = read (inst.columns name) ∨
        read ((inst.onto updateFields stored).columns name) = read (stored.columns name) :=
    fun read name => (ite_eq_or_eq _ _ _).imp (congrArg read) (congrArg read)
  exact ⟨hcolumn textOf _, hcolumn (fun value => (numberOf value).bind addresses.address) _,
    hcolumn (fun value => ((numberOf value).getD 0).toNat) _, hcolumn flagOf _, hcolumn flagOf _, hcolumn flagOf _,
    hcolumn textOf _, hcolumn (fun value => (numberOf value).map Int.toNat) _, hcolumn flagOf _⟩

theorem fingerprint_onto (hlawful : platform.Lawful) (hsha : Function.Injective platform.sha256) {pk : Option Int}
    {fingerprint : String} (updateFields : Option (List String))
    (hmemory : backendKeyTargetFingerprint platform (endpointOf addresses pk inst.columns) = .ok fingerprint)
    (hstored : backendKeyTargetFingerprint platform (endpointOf addresses pk stored.columns) = .ok fingerprint) :
    backendKeyTargetFingerprint platform (endpointOf addresses pk (inst.onto updateFields stored).columns)
      = .ok fingerprint := by
  obtain ⟨binding, hbinding, hdigest⟩ := backendKeyTargetFingerprint_eq_ok.mp hmemory
  have hbound : backendKeyBinding platform (endpointOf addresses pk stored.columns) = .ok binding := by
    refine backendKeyBinding_of_fingerprint hlawful hsha (endpointOf_nulFree _ _)
      (backendKeyBinding_separated hlawful (endpointOf_nulFree _ _) hbinding) ?_
    rw [hdigest]
    exact hstored
  have hmixed := backendKeyBinding_mixed hlawful (onto_mixed inst updateFields stored pk) hbinding hbound
  exact backendKeyTargetFingerprint_eq_ok.mpr ⟨binding, hmixed, hdigest⟩

theorem endpointOf_adopting (inst : Instance) (ciphertext fingerprint : String) (pk : Option Int) :
    endpointOf addresses pk (inst.adopting ciphertext fingerprint).columns = endpointOf addresses pk inst.columns := by
  simp [endpointOf, Instance.adopting, Function.update_of_ne]

def adoptedOnto (inst : Instance) (updateFields : Option (List String)) (stored : Row) (ciphertext fingerprint : String) :
    Row :=
  (inst.adopting ciphertext fingerprint).onto (updateFields.map (· ++ ["backend_key_target_fingerprint"])) stored

theorem wp_fastAPIEndpointSave {transition : Transition} {nextPk : Int} (hpk : inst.pk = some pk)
    (hstored : (db.tables .fastAPIEndpoint).get? pk = some stored)
    (hgated : updateFields.all updatesBackendKeyState = true) :
    wp (fastAPIEndpointSave env cipher transition nextPk inst updateFields) db
      (fun db' _ => transition.authority (some stored) = .ok () ∧ ∃ ciphertext fingerprint,
        (db'.tables .fastAPIEndpoint).get? pk = some (adoptedOnto inst updateFields stored ciphertext fingerprint))
      fun _ _ => True := by
  simp only [fastAPIEndpointSave, wp_bind, wp_raising, wp_ite, wp_read, wp_atomic, hpk, hgated, Option.bind_some,
    hstored]
  refine ⟨fun _ _ => ⟨fun hother => absurd hother (by simp), fun _ => ⟨fun _ hauthority => ?_, fun _ _ => trivial⟩⟩,
    fun _ _ => trivial⟩
  refine ⟨fun _ _ => ⟨fun outcome _ => ?_, fun _ _ => trivial⟩, fun _ _ => trivial⟩
  refine wp_tokenCiphertext (fun db' ciphertext hwritten _ => ?_) fun _ _ _ => trivial
  have hstored' : (db'.tables .fastAPIEndpoint).get? pk = some stored := by
    rw [hwritten.tables]
    exact hstored
  refine wp_modelSave hstored' hpk ⟨hauthority, ciphertext, outcome.2, ?_⟩ fun _ => trivial
  simp [Database.saved, adoptedOnto, hstored']

theorem save_returned {held : Option BackendKeyAdoptionProof} {db' : Database} (hpk : inst.pk = some pk)
    (hstored : (db.tables .fastAPIEndpoint).get? pk = some stored)
    (hgated : updateFields.all updatesBackendKeyState = true)
    (hsaved : save platform env cipher addresses choice actor inst updateFields held db = (.ok (), db')) :
    requireBackendTargetEditAuthority platform addresses actor inst (some stored) = .ok () ∧ ∃ ciphertext fingerprint,
      (db'.tables .fastAPIEndpoint).get? pk = some (adoptedOnto inst updateFields stored ciphertext fingerprint) := by
  have hspec : wp (save platform env cipher addresses choice actor inst updateFields held) db
      (fun db' _ => requireBackendTargetEditAuthority platform addresses actor inst (some stored) = .ok () ∧
        ∃ ciphertext fingerprint, (db'.tables .fastAPIEndpoint).get? pk
          = some (adoptedOnto inst updateFields stored ciphertext fingerprint)) fun _ _ => True := by
    simp only [save, wp_bind, wp_read]
    exact wp_fastAPIEndpointSave hpk hstored hgated
  unfold wp at hspec
  rw [hsaved] at hspec
  exact hspec

theorem writes_append {field : String} (added : String) (hne : field ≠ added) (hrelation : relationOf field = none) :
    writes (updateFields.map (· ++ [added])) field = writes updateFields field := by
  cases updateFields <;> simp [writes, hne, hrelation]

theorem fastAPIEndpointSave_ungated {transition transition' : Transition} {nextPk : Int}
    (hskips : (inst.pk.isSome && !updateFields.all updatesBackendKeyState) = true)
    (htoken : transition.token = transition'.token) :
    fastAPIEndpointSave env cipher transition nextPk inst updateFields
      = fastAPIEndpointSave env cipher transition' nextPk inst updateFields := by
  simp only [fastAPIEndpointSave, nonsecurityAllowed, hskips, if_true, htoken]

/-- A save that skips the gate, or whose instance is disabled in memory, is the same for every actor. -/
theorem save_unchecked (h : gated inst updateFields = false ∨ flagOf (inst.columns "enabled") = false)
    (held : Option BackendKeyAdoptionProof) (actor actor' : Actor) :
    save platform env cipher addresses choice actor inst updateFields held
      = save platform env cipher addresses choice actor' inst updateFields held := by
  rcases h with hother | hdisabled
  · have hskips : (inst.pk.isSome && !updateFields.all updatesBackendKeyState) = true := by
      simpa [gated, Option.isSome_iff_ne_none, Bool.or_eq_false_iff] using hother
    exact bind_congr fun db => fastAPIEndpointSave_ungated hskips rfl
  · have hsame : requireBackendTargetEditAuthority platform addresses actor inst
        = requireBackendTargetEditAuthority platform addresses actor' inst := by
      funext previous
      unfold requireBackendTargetEditAuthority
      rw [hdisabled]
      rfl
    simp only [save, transition, hsame]

end Authority

/-- Let a save leave an enabled row away from the target of its key. Whoever makes it has both permissions
exactly if it goes through the gate and `enabled` is set in memory or written. -/
theorem targetEdit_authorised_iff {ν : Type} {platform : Platform} {env : Environment ν} {cipher : Cipher ν}
    (hlawful : platform.Lawful) (hsha : Function.Injective platform.sha256) {addresses : AddressTable}
    {choice : Choice} {actor : Actor} {inst : Instance} {updateFields : Option (List String)}
    {held : Option BackendKeyAdoptionProof} {db db' : Database} {pk : Int} {stored after : Row}
    (hpk : inst.pk = some pk) (hstored : (db.tables .fastAPIEndpoint).get? pk = some stored)
    (hsaved : save platform env cipher addresses choice actor inst updateFields held db = (.ok (), db'))
    (hafter : (db'.tables .fastAPIEndpoint).get? pk = some after) (henabled : flagOf (after.columns "enabled") = true)
    (hmoved : backendKeyTargetFingerprint platform (endpointOf addresses (some pk) after.columns)
      ≠ .ok (storedFingerprint stored)) :
    (∀ actor', save platform env cipher addresses choice actor' inst updateFields held db = (.ok (), db') →
      actor'.sensitive = true ∧ actor'.change = true) ↔
      gated inst updateFields = true ∧ (flagOf (inst.columns "enabled") = true ∨ writes updateFields "enabled" = true) := by
  constructor
  · intro hauthorised
    by_contra hnot
    have hunchecked : gated inst updateFields = false ∨ flagOf (inst.columns "enabled") = false := by
      cases hgated : gated inst updateFields <;> simp_all
    rw [save_unchecked hunchecked held actor nobody] at hsaved
    exact absurd (hauthorised nobody hsaved).1 (by decide)
  · rintro ⟨hgated, hflag⟩ actor' hsaved'
    have hfields : updateFields.all updatesBackendKeyState = true := by simpa [gated, hpk] using hgated
    obtain ⟨hauthority, ciphertext, fingerprint, hwritten⟩ := save_returned hpk hstored hfields hsaved'
    obtain rfl := Option.some.inj (hwritten.symm.trans hafter)
    have hmemory : flagOf (inst.columns "enabled") = true := by
      rcases hflag with hset | hselected
      · exact hset
      · have hkept : (inst.adopting ciphertext fingerprint).columns "enabled" = inst.columns "enabled" := by
          simp [Instance.adopting]
        rw [← writes_append "backend_key_target_fingerprint" (by decide) rfl] at hselected
        simpa [adoptedOnto, Instance.onto, hselected, hkept] using henabled
    have hchecked : requireTargetAuthority platform addresses actor' inst pk stored = .ok () := by
      simpa [requireBackendTargetEditAuthority, hpk, hmemory] using hauthority
    rcases requireTargetAuthority_cases hchecked with ⟨hinst, hprevious⟩ | hpermitted
    · refine absurd (fingerprint_onto hlawful hsha _ ?_ hprevious) hmoved
      rw [endpointOf_adopting]
      exact hinst
    · exact hpermitted

/-! ### A row with an adopted key -/

def tableKey : String := "0123456789abcdef0123456789abcdef============"

def tableAddresses : AddressTable where
  address
    | 1 => some "192.168.100.100/32"
    | 2 => some "192.168.100.200/32"
    | _ => none
  nulFree id value h := by
    split at h
    · obtain rfl := Option.some.inj h
      unfold NulFree
      decide
    · obtain rfl := Option.some.inj h
      unfold NulFree
      decide
    · cases h

def columnsAt (enabled : Bool) (address : Int) (fingerprint : String) : String → Value
  | "enabled" => .flag enabled
  | "ip_address_id" => .number address
  | "port" => .number 8800
  | "use_https" | "use_websocket" | "server_side_websocket" => .flag false
  | "verify_ssl" => .flag true
  | "backend_key_target_fingerprint" => .text fingerprint
  | _ => .null

def adoptedFingerprint : String :=
  match backendKeyTargetFingerprint tablePlatform (endpointOf tableAddresses (some 3) (columnsAt true 1 "")) with
  | .ok fingerprint => fingerprint
  | .error _ => ""

def adoptedRow : Row where
  secrets
    | "token_enc" => "#0123456789abcdef0123456789abcdefs3cret"
    | _ => ""
  columns := columnsAt true 1 adoptedFingerprint

def tableDatabase : Database where
  settings := ⟨1, tableKey, fun _ => .null⟩
  tables
    | .fastAPIEndpoint => Dict.ofDefaults [(3, adoptedRow)]
    | _ => Dict.ofDefaults []
  installed := false
  events := []

def movedInstance (enabled : Bool) : Instance :=
  ⟨some 3, adoptedRow.secrets, columnsAt enabled 2 adoptedFingerprint, [], [], some adoptedRow, false⟩

def quietChoice : Choice :=
  ⟨⟨fun _ => some .timeout, fun _ => .error .timeout⟩, "generated", ⟨tableKey, by decide +kernel, by decide⟩, 4⟩

def moveAddress (actor : Actor) (enabled : Bool) : Except Failure Unit × Database :=
  save tablePlatform .calm Cipher.transparent tableAddresses quietChoice actor (movedInstance enabled)
    (some ["ip_address"]) none tableDatabase

def movedAway (outcome : Except Failure Unit × Database) : Bool :=
  outcome.1.isOk && ((outcome.2.tables .fastAPIEndpoint).get? 3).any fun after =>
    flagOf (after.columns "enabled") && decide (backendKeyTargetFingerprint tablePlatform
      (endpointOf tableAddresses (some 3) after.columns) ≠ .ok (storedFingerprint adoptedRow))

def administrator : Actor := ⟨true, true, fun _ => true⟩

theorem exists_of_movedAway {outcome : Except Failure Unit × Database} (h : movedAway outcome = true) :
    ∃ db' after, outcome = (.ok (), db') ∧ (db'.tables .fastAPIEndpoint).get? 3 = some after ∧
      flagOf (after.columns "enabled") = true ∧ backendKeyTargetFingerprint tablePlatform
        (endpointOf tableAddresses (some 3) after.columns) ≠ .ok (storedFingerprint adoptedRow) := by
  obtain ⟨result, db'⟩ := outcome
  obtain ⟨hok, hafter⟩ := Bool.and_eq_true_iff.mp h
  obtain ⟨after, hafter, hmoved⟩ := (Option.any_eq_true _ _).mp hafter
  obtain ⟨henabled, hmoved⟩ := Bool.and_eq_true_iff.mp hmoved
  cases result with
  | ok => exact ⟨db', after, rfl, hafter, henabled, of_decide_eq_true hmoved⟩
  | error => cases hok

theorem administrator_moves : movedAway (moveAddress administrator true) = true ∧
    ∀ actor, moveAddress actor true = moveAddress administrator true → actor.sensitive = true ∧ actor.change = true := by
  have hmoves : movedAway (moveAddress administrator true) = true := by decide +kernel
  obtain ⟨db', after, hsaved, hafter, henabled, hmoved⟩ := exists_of_movedAway hmoves
  refine ⟨hmoves, fun actor hsame => ?_⟩
  exact (targetEdit_authorised_iff tablePlatform_lawful tablePlatform_sha256_injective rfl rfl hsaved hafter henabled
    hmoved).mpr ⟨rfl, .inl rfl⟩ actor (hsame.trans hsaved)

/-- An instance that is disabled in memory moves the enabled row, for a user without any permission. -/
theorem disabledInstance_moves : movedAway (moveAddress nobody false) = true ∧
    nobody.sensitive = false ∧ nobody.change = false :=
  ⟨by decide +kernel, rfl, rfl⟩

example : movedAway (moveAddress nobody true) = false := by decide +kernel

end Proxbox.BackendKey
