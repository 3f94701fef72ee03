import Proxbox.Encryption.Reset
/-!
# Guarded writes

Every other way to write the tables: a model save, `QuerySet.update`, `bulk_update`, `bulk_create` and the save
of the settings, each behind the guard `install_encrypted_writer_guards` puts before it. Whoever writes holds a
copy made earlier, and the guard compares it with the row it finds once it has the lock on the settings row.
-/

namespace Proxbox.Encryption

open Python Transaction

variable {ν : Type} (env : Environment ν) (cipher : Cipher ν)

/-- A model instance in memory: its attributes, which of its ciphertexts are `_SetterProducedCiphertext`, and
what its own setters were replacing. -/
structure Instance where
  pk : Option Int
  secrets : String → String
  columns : String → Value
  setterProduced : List String
  expectedWrites : List (String × String)
  loaded : Option Row
  tokenAssigned : Bool

/-! ### The save of a model -/

def staleMessage : String :=
  "This object changed during encryption-key recovery. Reload it before saving credentials."

def staleKeyMessage : String :=
  "Encrypted values were prepared with a stale or unavailable plugin key. Reload the object and submit an "
    ++ "explicit replacement credential."

variable (inst : Instance)

def replacementAccepted (persisted : Row) (field : String) : Bool :=
  inst.secrets field = persisted.secrets field || field ∈ inst.setterProduced ||
    inst.expectedWrites.lookup field = some (persisted.secrets field)

def validateEncryptedFieldReplacements (model : Model) (inst : Instance) (persisted : Option Row) :
    Except Failure Unit :=
  match persisted with
  | none => .ok ()
  | some persisted =>
    ensure ((encryptedFields model).all (replacementAccepted inst persisted)) (.validation "__all__" staleMessage)

def validateCiphertextsUseCurrentKey (model : Model) (inst : Instance) (currentKey : String) : Except Failure Unit :=
  ensure ((encryptedFields model).all fun field => opens cipher currentKey (inst.secrets field))
    (.validation "__all__" staleKeyMessage)

variable (updateFields : Option (List String))

def relationOf : String → Option String
  | "ip_address_id" => some "ip_address"
  | "netbox_cluster_id" => some "netbox_cluster"
  | _ => none

/-- Whether a save with these `update_fields` writes the column, which they name itself or as a relation. -/
def writes (name : String) : Bool :=
  updateFields.all fun fields => name ∈ fields || (relationOf name).any (· ∈ fields)

theorem relationOf_recoveryField : ∀ model, ∀ name ∈ recoveryFields model, relationOf name = none := by
  intro model
  cases model <;> decide +kernel

@[simp] theorem relationOf_encryptionKey : relationOf "encryption_key" = none := rfl

theorem writes_some {model : Model} {name : String} (h : name ∈ recoveryFields model) (fields : List String) :
    writes (some fields) name = decide (name ∈ fields) := by
  simp [writes, relationOf_recoveryField model name h]

/-- The row as `Model.save` leaves it. -/
def Instance.onto (row : Row) : Row :=
  ⟨fun field => if writes updateFields field then inst.secrets field else row.secrets field,
    fun name => if writes updateFields name then inst.columns name else row.columns name⟩

/-- `Model.save`: an update of the stored row, or the insertion of a new one under the next key. -/
def modelSave (model : Model) (nextPk : Int) (inst : Instance) (updateFields : Option (List String)) : Step Unit := do
  let db ← read
  let pk := inst.pk.getD nextPk
  statement env (.writeRow model pk)
  if ((db.tables model).get? pk).isSome && inst.pk.isSome then
    write (·.update model fun pk' row => if pk' = pk then inst.onto updateFields row else row)
  else if updateFields.isSome || ((db.tables model).get? pk).isSome then throw .database
  else write (·.insert model pk ⟨inst.secrets, inst.columns⟩)

/-! ### The settings -/

def requireCanonicalNewKey (previousKey : Option String) (newKey : String) : Except Failure Unit :=
  let candidate := strip newKey
  ensure (candidate = "" ∨ candidate = strip (previousKey.getD "") ∨ isCanonicalFernetKey cipher candidate)
    (.validation "encryption_key" nonCanonicalKeyMessage)

def assertOrdinaryKeyMutationAllowed (currentKey proposedKey : String) : Step Unit := do
  if strip currentKey = strip proposedKey then return
  if env.fails .payloads then
    throw (configurationError ("Encrypted-secret recovery could not verify the registered database "
      ++ "tables. Key mutation remains blocked until the installation is repaired."))
  if (← read).encryptedPayloadsExist then
    throw (.recovery .encryptionKeyMutationBlocked ("The plugin encryption key cannot be cleared or replaced while "
      ++ "encrypted values exist. Use the verified rotation workflow, or the separately "
      ++ "permissioned destructive reset workflow if the old key is unavailable."))

def asKeyValidation {α : Type} (action : Step α) : Step α :=
  tryCatch action fun
    | .recovery _ message => throw (.validation "encryption_key" message)
    | failure => throw failure

def Settings.onto (inst : Settings) (updateFields : Option (List String)) (row : Settings) : Settings :=
  { row with
    encryptionKey := if writes updateFields "encryption_key" then inst.encryptionKey else row.encryptionKey
    columns := fun name => if writes updateFields name then inst.columns name else row.columns name }

/-- `super().save()`: the singleton exists, so that an instance of no or another key fails on its unique key. -/
def settingsWrite (inst : Settings) (saved : Bool) (updateFields : Option (List String)) : Step Unit := do
  if !saved || (← read).settings.pk ≠ inst.pk then throw .database
  statement env .writeKey
  write fun db => { db with settings := inst.onto updateFields db.settings }

def settingsSaveChecked (inst : Settings) (updateFields : Option (List String)) : Step Unit := do
  statement env .settings
  let db ← read
  if db.settings.pk ≠ inst.pk then raising (requireCanonicalNewKey cipher none inst.encryptionKey)
  else if db.settings.encryptionKey ≠ inst.encryptionKey then
    let _ ← lockEncryptedFieldTables env
    assertOrdinaryKeyMutationAllowed env db.settings.encryptionKey inst.encryptionKey
    raising (requireCanonicalNewKey cipher (some db.settings.encryptionKey) inst.encryptionKey)
  settingsWrite env inst true updateFields

/-- `ProxboxPluginSettings.save`; `saved` says that the instance has a primary key. -/
def settingsSave (inst : Settings) (saved : Bool) (updateFields : Option (List String)) : Step Unit := do
  if !saved || !writes updateFields "encryption_key" then
    if !saved && writes updateFields "encryption_key" then
      raising (requireCanonicalNewKey cipher none inst.encryptionKey)
    settingsWrite env inst saved updateFields
  else asKeyValidation (atomic (settingsSaveChecked env cipher inst updateFields))

/-- The text `Fernet.generate_key` gives. -/
structure GeneratedKey where
  text : String
  strip_text : strip text = text
  text_ne_empty : text ≠ ""

def getOrCreatePrimarySecretKey (generated : GeneratedKey) : Step String := do
  let db ← read
  if db.currentKey ≠ "" then return db.currentKey
  settingsSave env cipher { db.settings with encryptionKey := generated.text } true (some ["encryption_key"])
  return generated.text

/-! ### The save of a FastAPI endpoint -/

/-- What `prepare_backend_key_transition` assigns to `token_enc`: the stored ciphertext, nothing, or a fresh
encryption of a candidate. -/
inductive TokenWrite where
  | keep
  | blank
  | fresh (candidate : String)

/-- What the save of a FastAPI endpoint meets besides the row it finds; `outcome` is how
`prepare_backend_key_transition` goes on once the row is known to be the loaded one. -/
structure Transition where
  openbao : Bool
  token : Except Failure String
  authority : Option Row → Except Failure Unit
  outcome : Option Row → Except Failure (TokenWrite × String)
  generatedKey : GeneratedKey

def backendKeyPersistedFields : List String :=
  ["enabled", "domain", "ip_address_id", "port", "use_https", "verify_ssl", "use_websocket", "websocket_domain",
    "websocket_port", "server_side_websocket", "token_enc", "openbao_token_credential_uuid",
    "backend_key_target_fingerprint"]

def updatesBackendKeyState (updateFields : List String) : Bool :=
  updateFields.any fun name => name ∈ backendKeyPersistedFields || name = "ip_address"

def normalizeUpdateFields : Except Failure Unit :=
  ensure (updateFields.all ("token" ∉ ·))
    (.validation "update_fields" "Use token_enc, not the virtual token property, in update_fields.")

def normalizedName : Value → Value
  | .text s => .text (env.lower (strip s))
  | .null => .text ""
  | value => value

def backendConnectionIdentity (row : Row) : List Value :=
  [normalizedName env (row.columns "domain"), row.columns "ip_address_id", row.columns "port", row.columns "use_https",
    row.columns "verify_ssl", row.columns "use_websocket", normalizedName env (row.columns "websocket_domain"),
    row.columns "websocket_port", row.columns "server_side_websocket"]

def backendKeyPersistedSignature (row : Row) : List Value × String :=
  (row.columns "enabled" :: backendConnectionIdentity env row ++
    [row.columns "backend_key_target_fingerprint", row.columns "openbao_token_credential_uuid"],
    row.secrets "token_enc")

def directTokenMessage : String :=
  "Assign backend keys through the token property; direct encrypted-field changes are not accepted."

variable (transition : Transition)

def nonsecurityAllowed (inst : Instance) (currentKey : String) : Except Failure Unit :=
  match inst.loaded with
  | some loaded =>
    if inst.tokenAssigned then
      match decrypt cipher (loaded.secrets "token_enc") currentKey with
      | .error _ => throw (.validation "update_fields" ("The stored backend key cannot be decrypted. Include "
          ++ "token_enc in update_fields and submit an explicit replacement key, or use destructive recovery."))
      | .ok previousToken => do
          ensure (strip (← transition.token) = strip previousToken) (.validation "update_fields"
            "A replacement backend key cannot be supplied when token_enc is excluded from update_fields.")
    else ensure (inst.secrets "token_enc" = loaded.secrets "token_enc") (.validation "token" directTokenMessage)
  | none => ensure (inst.tokenAssigned = false)
      (.validation "token" "Reload the complete backend endpoint before assigning a key.")

def loadedSignatureKept (previous : Option Row) : Except Failure Unit :=
  match previous, inst.loaded with
  | none, _ => .ok ()
  | some _, none => .error (.validation "token"
      "Reload the complete backend endpoint before saving it; concurrency state is unavailable.")
  | some previous, some loaded =>
    ensure (backendKeyPersistedSignature env previous = backendKeyPersistedSignature env loaded) (.validation "token"
      "This backend endpoint changed concurrently. Reload it before adopting a key or changing its connection.")

def encryptPrimarySecret (nonce : ν) (plaintext : String) : Step String := do
  if transition.openbao || plaintext = "" then return ""
  let key ← getOrCreatePrimarySecretKey env cipher transition.generatedKey
  match encrypt cipher nonce plaintext key with
  | .ok ciphertext => return ciphertext
  | .error error => throw (.encryption error)

def tokenCiphertext (pk : Int) (previous : Option Row) : TokenWrite → Step String
  | .keep => return (previous.map (·.secrets "token_enc")).getD ""
  | .blank => return ""
  | .fresh candidate => encryptPrimarySecret env cipher transition (env.nonce .fastAPIEndpoint pk "token_enc") candidate

def Instance.adopting (ciphertext fingerprint : String) : Instance :=
  { inst with
    secrets := Function.update inst.secrets "token_enc" ciphertext
    columns := Function.update inst.columns "backend_key_target_fingerprint" (.text fingerprint) }

def fastAPIEndpointSave (nextPk : Int) (inst : Instance) (updateFields : Option (List String)) : Step Unit := do
  raising (normalizeUpdateFields updateFields)
  if inst.pk.isSome && !updateFields.all updatesBackendKeyState then
    raising (nonsecurityAllowed cipher transition inst (← read).currentKey)
    modelSave env .fastAPIEndpoint nextPk inst updateFields
  else
    let previous := inst.pk.bind ((← read).tables .fastAPIEndpoint).get?
    raising (transition.authority previous)
    atomic do
      raising (loadedSignatureKept env inst previous)
      let (token, fingerprint) ← raising (transition.outcome previous)
      let ciphertext ← tokenCiphertext env cipher transition (inst.pk.getD nextPk) previous token
      modelSave env .fastAPIEndpoint nextPk (inst.adopting ciphertext fingerprint)
        (updateFields.map (· ++ ["backend_key_target_fingerprint"]))

/-! ### The save of a Proxmox endpoint -/

def bindingField : String := "approved_connection_target_fingerprint"

variable (current : Option Row)

def clusterBindingAllowed : Option (List String) → Except Failure Unit
  | some updateFields =>
    ensure ("netbox_cluster" ∉ updateFields ∧ "netbox_cluster_id" ∉ updateFields) (.validation "__all__"
      "Native cluster ownership requires the protected synchronization action.")
  | none =>
    ensure (current.isSome ∨ inst.columns "netbox_cluster_id" = .null) (.validation "__all__"
      "A new endpoint cannot claim native cluster ownership through an ordinary save.")

def Instance.bound (updateFields : Option (List String)) : Instance :=
  let binding := (current.map (·.columns bindingField)).getD (.text "")
  let cluster := (current.map (·.columns "netbox_cluster_id")).getD .null
  { inst with
    columns := Function.update (if updateFields.isSome then inst.columns
      else Function.update inst.columns "netbox_cluster_id" cluster) bindingField binding }

/-- `save_bound_endpoint`, for a save that is not an approval. -/
def saveBoundEndpoint (nextPk : Int) (inst : Instance) (updateFields : Option (List String)) : Step Unit :=
  atomic do
    let current := inst.pk.bind ((← read).tables .proxmoxEndpoint).get?
    raising (clusterBindingAllowed inst current updateFields)
    raising (ensure (updateFields.all (bindingField ∉ ·)) (.validation "__all__"
      "Connection approval requires the protected approval action."))
    modelSave env .proxmoxEndpoint nextPk (inst.bound current updateFields) updateFields

/-! ### The guards -/

def originalSave (model : Model) (transition : Transition) (nextPk : Int) (inst : Instance)
    (updateFields : Option (List String)) : Step Unit :=
  match model with
  | .fastAPIEndpoint => fastAPIEndpointSave env cipher transition nextPk inst updateFields
  | .proxmoxEndpoint => saveBoundEndpoint env nextPk inst updateFields
  | _ => modelSave env model nextPk inst updateFields

/-- `guarded_save`. A save of columns no recovery writes goes straight to the model's own save. -/
def guardedSave (model : Model) (transition : Transition) (nextPk : Int) (inst : Instance)
    (updateFields : Option (List String)) : Step Unit := do
  if updateFields.any fun fields => (recoveryFields model).all (· ∉ fields) then
    originalSave env cipher model transition nextPk inst updateFields
  else
    atomic do
      statement env .settings
      let db ← read
      raising (validateEncryptedFieldReplacements model inst (inst.pk.bind (db.tables model).get?))
      if !(transition.openbao && model = .fastAPIEndpoint) then
        raising (validateCiphertextsUseCurrentKey cipher model inst db.currentKey)
      originalSave env cipher model transition nextPk inst updateFields

def encryptedWriteMessage : String :=
  "Encrypted fields cannot be written with QuerySet.update(), bulk_update(), or bulk_create(). Use the "
    ++ "registered secret setter and model save path."

def settingsKeyWriteMessage : String :=
  "The plugin encryption key cannot be written with QuerySet.update(), bulk_update(), or bulk_create(). Use "
    ++ "the verified rotation workflow or an ordinary model save when no ciphertext exists."

def guardedSettingsUpdate (encryptionKey : Option String) (columns : List (String × Value)) : Step Unit := do
  if encryptionKey.isSome then throw (.validation "__all__" settingsKeyWriteMessage)
  statement env .writeKey
  write fun db => { db with settings := { db.settings with columns := overwrite columns db.settings.columns } }

/-- The row still has the recovery columns of the snapshot. -/
def recoveryFieldsKept (model : Model) (snapshot row : Row) : Bool :=
  (encryptedFields model).all (fun field => row.secrets field = snapshot.secrets field) &&
    (protectedFields model).all fun name => row.columns name = snapshot.columns name

/-- `guarded_update` without a permit; the snapshots are the rows the queryset selected before the lock. -/
def guardedUpdate (model : Model) (selects : Int → Row → Bool) (snapshots : List (Int × Row)) (updates : Updates) :
    Step Unit := do
  if updates.secrets.any fun item => item.1 ∈ encryptedFields model then
    throw (.validation "__all__" encryptedWriteMessage)
  if (protectedFields model).all fun name => name ∉ updates.columns.map Prod.fst then
    statement env (.writeRows model)
    write (·.update model fun pk row => if selects pk row then updates.apply row else row)
  else if !snapshots.isEmpty then
    atomic do
      statement env .settings
      snapshots.forM fun item => do
        statement env (.writeRow model item.1)
        write (·.update model fun pk row =>
          if pk = item.1 && selects pk row && recoveryFieldsKept model item.2 row then updates.apply row else row)

def guardedBulkUpdate (model : Model) (objs : List (Int × Instance)) (fields : List String) : Step Unit := do
  if (encryptedFields model).any (· ∈ fields) then throw (.validation "__all__" encryptedWriteMessage)
  atomic (objs.forM fun obj => do
    statement env (.writeRow model obj.1)
    write (·.update model fun pk row => if pk = obj.1 then obj.2.onto (some fields) row else row))

/-! ### Bulk creation -/

inductive OnConflict where
  | fail
  | ignore
  | update
  deriving DecidableEq

/-- The options of a `bulk_create`, and which of them are given as keywords. -/
structure BulkOptions where
  onConflict : OnConflict
  updateFields : List String
  keywords : List String

/-- `kwargs.get("update_fields") or ()`, which a list given by position is not in. -/
def BulkOptions.seenFields (options : BulkOptions) : List String :=
  if "update_fields" ∈ options.keywords then options.updateFields else []

structure Created where
  inst : Instance
  pk : Int
  conflicts : Bool

def protectedConflictFields (model : Model) (updateFields : List String) : List String :=
  ((protectedFields model).dedup.filter (· ∈ updateFields)).mergeSort fun left right => decide (left ≤ right)

/-- `guarded_bulk_create`; `permit` holds the fields of an active `_ProtectedConflictUpsertPermit`. -/
def guardedBulkCreate (permit : Option (List String)) (model : Model) (objs : List Created)
    (options : BulkOptions) : Step Unit := do
  if objs.any (fun obj => (encryptedFields model).any (obj.inst.secrets · ≠ "")) ||
      (encryptedFields model).any (· ∈ options.seenFields) then
    throw (.validation "__all__" encryptedWriteMessage)
  let conflictFields := protectedConflictFields model options.seenFields
  if conflictFields ≠ [] ∧ permit ≠ some conflictFields then
    throw (.validation "__all__" ("Conflict upserts cannot update encryption-recovery-protected fields: "
      ++ String.intercalate ", " conflictFields ++ ". Use the settings-locked internal recovery path."))
  atomic (objs.forM fun obj => do
    statement env (.writeRow model obj.pk)
    if obj.conflicts then
      match options.onConflict with
      | .fail => throw .database
      | .ignore => pure ()
      | .update => write (·.update model fun pk row =>
          if pk = obj.pk then obj.inst.onto (some options.updateFields) row else row)
    else if (((← read).tables model).get? obj.pk).isSome then throw .database
    else write (·.insert model obj.pk ⟨obj.inst.secrets, obj.inst.columns⟩))

def lockedRecoveryConflictBulkCreate (model : Model) (objs : List Created) (options : BulkOptions) :
    Step Unit := do
  let conflictFields := protectedConflictFields model options.seenFields
  if "update_conflicts" ∉ options.keywords ∨ options.onConflict ≠ .update ∨ conflictFields = [] then
    throw (configurationError "The internal conflict-upsert helper requires protected recovery fields.")
  atomic do
    statement env .settings
    guardedBulkCreate env (some conflictFields) model objs options

/-- `guarded_bulk_create` on the settings, each instance with whether it conflicts with the stored row. One that
does not becomes a further row, which nothing reads. -/
def guardedSettingsBulkCreate (objs : List (Settings × Bool)) (options : BulkOptions) : Step Unit := do
  if objs.any (·.1.encryptionKey ≠ "") || "encryption_key" ∈ options.seenFields then
    throw (.validation "__all__" settingsKeyWriteMessage)
  atomic (objs.forM fun obj => do
    statement env .writeKey
    if obj.2 then
      match options.onConflict with
      | .fail => throw .database
      | .ignore => pure ()
      | .update => write fun db => { db with settings := obj.1.onto (some options.updateFields) db.settings })

end Proxbox.Encryption
