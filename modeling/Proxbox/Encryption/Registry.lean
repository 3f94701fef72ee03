import Proxbox.Encryption.Keys
import Proxbox.Library.Dict
import Proxbox.Library.Transaction
/-!
# The registry of encrypted fields

`ENCRYPTED_FIELD_FAMILIES` and the database it speaks of. A row keeps its ciphertexts apart from its other
columns; a family names the ciphertexts that are rotated and reset together, with the trust and operational
columns that go with them. Two families share the table of the Proxmox endpoints.
-/

namespace Proxbox.Encryption

open Python Transaction

inductive Value where
  | null
  | flag (b : Bool)
  | number (n : Int)
  | text (s : String)
  deriving DecidableEq

inductive Model where
  | proxmoxEndpoint
  | fastAPIEndpoint
  | pbsEndpoint
  | pbsPluginSettings
  | pdmEndpoint
  | nodeSSHCredential
  | serviceSSHCredential
  | proxmoxVMCloudInit
  | firecrackerHost
  | proxmoxMetricsInfluxDB
  deriving DecidableEq

/-- A family. It is `optional` when its owner is the companion plugin netbox-pbs. -/
structure EncryptedFieldFamily where
  key : String
  label : String
  model : Model
  encryptedFields : List String
  trustFields : List String
  operationalResetValues : List (String × Value)
  optional : Bool
  deriving DecidableEq

def encryptedFieldFamilies : List EncryptedFieldFamily := [
  ⟨"proxmox_api", "Proxmox API credentials", .proxmoxEndpoint, ["password_enc", "token_value_enc"],
    ["pushed_credential_fingerprint"], [("enabled", .flag false)], false⟩,
  ⟨"proxmox_ssh", "Proxmox endpoint SSH credentials", .proxmoxEndpoint, ["ssh_password_enc", "ssh_private_key_enc"],
    ["ssh_known_host_fingerprint"], [("enabled", .flag false)], false⟩,
  ⟨"fastapi_backend_key", "ProxBox API authentication key", .fastAPIEndpoint, ["token_enc"],
    ["backend_key_target_fingerprint"], [("enabled", .flag false)], false⟩,
  ⟨"pbs_api", "Proxmox Backup Server API credentials", .pbsEndpoint, ["token_secret_enc"],
    ["fingerprint"], [("enabled", .flag false)], false⟩,
  ⟨"pbs_fallback_api", "netbox-pbs fallback ProxBox API key", .pbsPluginSettings, ["proxbox_api_key_enc"],
    [], [], true⟩,
  ⟨"pdm_api", "Proxmox Datacenter Manager API credentials", .pdmEndpoint, ["token_secret_enc"],
    ["fingerprint"], [("enabled", .flag false)], false⟩,
  ⟨"node_ssh", "Per-node SSH credentials", .nodeSSHCredential, ["password_enc", "private_key_enc"],
    ["known_host_fingerprint"], [], false⟩,
  ⟨"service_ssh", "Application-service SSH credentials", .serviceSSHCredential, ["password_enc", "private_key_enc"],
    [], [], false⟩,
  ⟨"cloud_init_ssh_keys", "Cloud-init SSH public-key bundles", .proxmoxVMCloudInit, ["sshkeys_enc"],
    [], [], false⟩,
  ⟨"firecracker_agent", "Firecracker host-agent tokens", .firecrackerHost, ["agent_token_enc"],
    [], [("status", .text "offline")], false⟩,
  ⟨"influxdb_metrics", "Proxmox InfluxDB metrics tokens", .proxmoxMetricsInfluxDB, ["query_token_enc"],
    [], [("enabled", .flag false)], false⟩]

/-- `model._meta.get_field(name).null`, for the trust fields. -/
def nullable : Model → String → Bool
  | .pbsEndpoint, "fingerprint" | .pdmEndpoint, "fingerprint" => true
  | _, _ => false

def familiesOf (model : Model) : List EncryptedFieldFamily :=
  encryptedFieldFamilies.filter (·.model = model)

def encryptedFields (model : Model) : List String := (familiesOf model).flatMap (·.encryptedFields)

def protectedFields (model : Model) : List String :=
  (familiesOf model).flatMap fun family => family.trustFields ++ family.operationalResetValues.map Prod.fst

def recoveryFields (model : Model) : List String := encryptedFields model ++ protectedFields model

theorem mem_encryptedFields {model : Model} {field : String} :
    field ∈ encryptedFields model ↔
      ∃ family ∈ encryptedFieldFamilies, family.model = model ∧ field ∈ family.encryptedFields := by
  simp [encryptedFields, familiesOf, and_assoc]

theorem encryptedFieldFamilies_nodup : encryptedFieldFamilies.Nodup := by decide +kernel

theorem families_disjoint : ∀ first ∈ encryptedFieldFamilies, ∀ second ∈ encryptedFieldFamilies, first ≠ second →
    first.model = second.model → ∀ field ∈ first.encryptedFields, field ∉ second.encryptedFields := by
  decide +kernel

theorem encryptedFields_nodup_of_family :
    ∀ family ∈ encryptedFieldFamilies, family.encryptedFields.Nodup := by
  decide +kernel

/-! ### The database -/

structure Row where
  secrets : String → String
  columns : String → Value

def EncryptedFieldFamily.holdsCiphertext (family : EncryptedFieldFamily) (row : Row) : Bool :=
  family.encryptedFields.any (row.secrets · ≠ "")

structure Settings where
  pk : Int
  encryptionKey : String
  columns : String → Value

inductive Operation where
  | rotate
  | reset

structure RecoveryEvent where
  operation : Operation
  familyKeys : List String
  rowsAffected : Nat
  ciphertextValuesAffected : Nat

/-- The settings row, the tables by primary key, whether netbox-pbs is loaded, and the changelog. Without
netbox-pbs its table is dormant: no model writes its rows. -/
structure Database where
  settings : Settings
  tables : Model → Dict Int Row
  installed : Bool
  events : List RecoveryEvent

namespace Database

variable (db : Database)

def currentKey : String := strip db.settings.encryptionKey

def update (model : Model) (f : Int → Row → Row) : Database :=
  { db with tables := Function.update db.tables model ((db.tables model).mapValues f) }

def insert (model : Model) (pk : Int) (row : Row) : Database :=
  { db with tables := Function.update db.tables model ((db.tables model).set pk row) }

def available : List EncryptedFieldFamily :=
  encryptedFieldFamilies.filter fun family => !family.optional || db.installed

def dormant : List EncryptedFieldFamily :=
  encryptedFieldFamilies.filter fun family => family.optional && !db.installed

def rowsWithCiphertext (family : EncryptedFieldFamily) : List (Int × Row) :=
  (db.tables family.model).items.filter fun item => family.holdsCiphertext item.2

def dormantCiphertextExists : Bool := db.dormant.any fun family => !(db.rowsWithCiphertext family).isEmpty

def encryptedPayloadsExist : Bool :=
  db.available.any (fun family => !(db.rowsWithCiphertext family).isEmpty) || db.dormantCiphertextExists

variable {family : EncryptedFieldFamily}

theorem mem_available :
    family ∈ db.available ↔ family ∈ encryptedFieldFamilies ∧ (family.optional = false ∨ db.installed = true) := by
  simp [available]

theorem available_nodup : db.available.Nodup := encryptedFieldFamilies_nodup.filter _

theorem mem_rowsWithCiphertext {item : Int × Row} :
    item ∈ db.rowsWithCiphertext family ↔ (db.tables family.model).get? item.1 = some item.2 ∧
      ∃ field ∈ family.encryptedFields, item.2.secrets field ≠ "" := by
  simp [rowsWithCiphertext, EncryptedFieldFamily.holdsCiphertext, ← Dict.mem_items_iff_get?]

@[simp] theorem tables_update (model : Model) (f : Int → Row → Row) (model' : Model) :
    (db.update model f).tables model'
      = if model' = model then (db.tables model).mapValues f else db.tables model' := by
  by_cases hmodel : model' = model
  · simp [update, hmodel]
  · simp [update, hmodel]

theorem update_id (model : Model) : (db.update model fun _ row => row) = db := by
  simp [update, Dict.mapValues_id]

theorem available_of_ciphertext (hdormant : db.dormantCiphertextExists = false)
    (hfamily : family ∈ encryptedFieldFamilies) {item : Int × Row} (hitem : item ∈ db.rowsWithCiphertext family) :
    family ∈ db.available := by
  rw [mem_available]
  refine ⟨hfamily, ?_⟩
  by_contra hnot
  have hmem : family ∈ db.dormant := by
    simpa [dormant, hfamily] using hnot
  have hempty := List.any_eq_false.mp hdormant family hmem
  rw [Bool.not_eq_true, Bool.not_eq_false', List.isEmpty_iff] at hempty
  rw [hempty] at hitem
  cases hitem

end Database

structure Updates where
  secrets : List (String × String)
  columns : List (String × Value)

def overwrite {α : Type} (updates : List (String × α)) (old : String → α) (name : String) : α :=
  (updates.lookup name).getD (old name)

def Updates.apply (updates : Updates) (row : Row) : Row :=
  ⟨overwrite updates.secrets row.secrets, overwrite updates.columns row.columns⟩

/-! ### What may go wrong -/

inductive RecoveryError where
  | encryptionKeyMutationBlocked
  | oldEncryptionKeyRejected
  | ciphertextVerificationFailed
  | destructiveResetRejected
  | encryptionRecoveryConfigurationError
  | backendEncryptionDependencyError
  deriving DecidableEq

inductive Failure where
  | recovery (error : RecoveryError) (message : String)
  | validation (field message : String)
  | encryption (error : EncryptionError)
  | permissionDenied (message : String)
  | adoption (code message : String)
  | database
  | typeError
  | valueError

/-- The statements a recovery sends to the database, each of which may fail. -/
inductive Statement where
  | settings
  | lockTables
  | dormantRows
  | payloads
  | rows (familyKey : String)
  | rewrittenRows (familyKey : String)
  | writeKey
  | writeRow (model : Model) (pk : Int)
  | writeRows (model : Model)
  | record
  deriving DecidableEq

structure Reply where
  statusCode : Nat
  body : Option Json

/-- What the code meets outside the database. The fingerprint is that of the target a FastAPI row resolves to,
`none` for one that is refused; the reply is `none` when the backend cannot be reached. -/
structure Environment (ν : Type) where
  fails : Statement → Bool
  postgresql : Bool
  dormantSchema : Bool
  nonce : Model → Int → String → ν
  lower : String → String
  targetFingerprint : Int → Row → Option String
  attestation : Int → Option Reply

abbrev Step := Action Failure Database

section Statements

variable {ν : Type} (env : Environment ν)

def statement (label : Statement) : Step Unit := if env.fails label then throw .database else pure ()

def configurationError (message : String) : Failure := .recovery .encryptionRecoveryConfigurationError message

def lockEncryptedFieldTables : Step (List EncryptedFieldFamily) := do
  if !env.postgresql then
    throw (configurationError ("Encryption-key mutation requires PostgreSQL table locking and was "
      ++ "blocked on this unsupported database backend."))
  let db ← read
  if !db.installed && !env.dormantSchema then
    throw (configurationError ("Encryption-key mutation is unavailable because a dormant netbox-pbs fallback ProxBox "
      ++ "API key table has an incompatible schema. Re-enable and migrate its owning companion before recovery."))
  if env.fails .lockTables then
    throw (configurationError "Encryption-key mutation could not lock every registered database table.")
  if env.fails .dormantRows then
    throw (configurationError ("Encryption-key mutation could not verify dormant optional-companion "
      ++ "ciphertext. Key mutation remains blocked until the database is repaired."))
  if db.dormantCiphertextExists then
    throw (configurationError ("Encryption-key mutation was blocked because an unloaded optional "
      ++ "companion still owns shared-key ciphertext. Re-enable and migrate "
      ++ "the companion, then rotate or reset its registered family."))
  return db.available

variable {raised : Database → Failure → Prop}

theorem wp_lockEncryptedFieldTables {db : Database} {value : Database → List EncryptedFieldFamily → Prop}
    (hvalue : db.dormantCiphertextExists = false → value db db.available)
    (hraised : ∀ failure, raised db failure) : wp (lockEncryptedFieldTables env) db value raised := by
  simp only [lockEncryptedFieldTables, wp_bind, wp_ite, wp_throw, wp_pure, wp_read]
  exact ⟨fun _ => hraised _, fun _ => ⟨fun _ => hraised _, fun _ => ⟨fun _ => hraised _, fun _ =>
    ⟨fun _ => hraised _, fun _ => ⟨fun _ => hraised _, fun hdormant => hvalue (by simpa using hdormant)⟩⟩⟩⟩⟩

section

variable {label : Statement} {db : Database} {value : Database → Unit → Prop}

theorem wp_statement_of (hvalue : value db ()) (hraised : env.fails label = true → raised db .database) :
    wp (statement env label) db value raised := by
  simp only [statement, wp_ite, wp_throw, wp_pure]
  exact ⟨hraised, fun _ => hvalue⟩

theorem wp_statement (hvalue : value db ()) (hraised : raised db .database) :
    wp (statement env label) db value raised := wp_statement_of env hvalue fun _ => hraised

end

variable (cipher : Cipher ν)

/-- `_locked_encrypted_queryset_update`: the outgoing ciphertexts are checked under the stored key. -/
def lockedEncryptedQuerysetUpdate (label : Statement) (model : Model) (selects : Int → Row → Bool)
    (updates : Updates) : Step Unit := do
  if !(updates.secrets.any fun item => item.1 ∈ encryptedFields model) then
    throw (configurationError ("The internal encrypted-field update was called without a registered "
      ++ "encrypted field."))
  let db ← read
  if !(updates.secrets.all fun item => opens cipher db.currentKey item.2) then
    throw (configurationError ("The internal encrypted-field update was blocked because its "
      ++ "ciphertext does not match the locked settings key."))
  statement env label
  write (·.update model fun pk row => if selects pk row then updates.apply row else row)

theorem wp_lockedEncryptedQuerysetUpdate {label : Statement} {model : Model} {selects : Int → Row → Bool}
    {updates : Updates} {db : Database} {value : Database → Unit → Prop}
    (hvalue : (∀ item ∈ updates.secrets, opens cipher db.currentKey item.2 = true) →
      value (db.update model fun pk row => if selects pk row then updates.apply row else row) ())
    (hraised : ∀ failure, raised db failure) :
    wp (lockedEncryptedQuerysetUpdate env cipher label model selects updates) db value raised := by
  simp only [lockedEncryptedQuerysetUpdate, wp_bind, wp_ite, wp_throw, wp_read]
  refine ⟨fun _ => hraised _, fun _ => ⟨fun _ => hraised _, fun hopens => ?_⟩⟩
  refine wp_statement env (wp_write.mpr (hvalue ?_)) (hraised _)
  simpa using hopens

end Statements

/-! ### Row by row -/

/-- `db'` has the rows of `db`, each one changed as `rel` says and nothing else. -/
structure RowByRow (rel : Model → Int → Row → Row → Prop) (db db' : Database) : Prop where
  settings : db'.settings = db.settings
  installed : db'.installed = db.installed
  events : db'.events = db.events
  absent : ∀ model pk, (db.tables model).get? pk = none → (db'.tables model).get? pk = none
  rows : ∀ model pk row, (db.tables model).get? pk = some row →
    ∃ row', (db'.tables model).get? pk = some row' ∧ rel model pk row row'

namespace RowByRow

variable {rel rel' rel'' : Model → Int → Row → Row → Prop} {db db' db'' : Database}

theorem refl (db : Database) (h : ∀ model pk row, rel model pk row row) : RowByRow rel db db :=
  ⟨rfl, rfl, rfl, fun _ _ h => h, fun model pk row hrow => ⟨row, hrow, h model pk row⟩⟩

theorem trans (hfirst : RowByRow rel db db') (hsecond : RowByRow rel' db' db'')
    (h : ∀ model pk row row' row'', rel model pk row row' → rel' model pk row' row'' → rel'' model pk row row'') :
    RowByRow rel'' db db'' := by
  refine ⟨hsecond.settings.trans hfirst.settings, hsecond.installed.trans hfirst.installed,
    hsecond.events.trans hfirst.events, fun model pk h => hsecond.absent _ _ (hfirst.absent _ _ h), ?_⟩
  intro model pk row hrow
  obtain ⟨row', hrow', hrel⟩ := hfirst.rows model pk row hrow
  obtain ⟨row'', hrow'', hrel'⟩ := hsecond.rows model pk row' hrow'
  exact ⟨row'', hrow'', h model pk row row' row'' hrel hrel'⟩

theorem mono (hrows : RowByRow rel db db')
    (h : ∀ model pk row row', (db.tables model).get? pk = some row → rel model pk row row' → rel' model pk row row') :
    RowByRow rel' db db' := by
  refine ⟨hrows.settings, hrows.installed, hrows.events, hrows.absent, fun model pk row hrow => ?_⟩
  obtain ⟨row', hrow', hrel⟩ := hrows.rows model pk row hrow
  exact ⟨row', hrow', h model pk row row' hrow hrel⟩

end RowByRow

def OneRow (model : Model) (pk : Int) (rel : Row → Row → Prop) (model' : Model) (pk' : Int) (row row' : Row) : Prop :=
  if model' = model ∧ pk' = pk then rel row row' else row' = row

theorem oneRow_update {model : Model} {pk : Int} {row : Row} {rel : Row → Row → Prop} {db : Database}
    (f : Row → Row) (hrow : (db.tables model).get? pk = some row) (hrel : rel row (f row)) :
    RowByRow (OneRow model pk rel) db (db.update model fun pk' row => if pk' = pk then f row else row) := by
  refine ⟨rfl, rfl, rfl, fun model' pk' habsent => ?_, fun model' pk' row' hrow' => ?_⟩
  · by_cases hmodel : model' = model
    · subst hmodel
      simp [habsent]
    · simpa [hmodel] using habsent
  · by_cases hmodel : model' = model
    · subst hmodel
      by_cases hpk : pk' = pk
      · subst hpk
        obtain rfl : row = row' := Option.some.inj (hrow.symm.trans hrow')
        exact ⟨f row, by simp [hrow], by simpa [OneRow] using hrel⟩
      · exact ⟨row', by simp [hrow', hpk], by simp [OneRow, hpk]⟩
    · exact ⟨row', by simp [hmodel, hrow'], by simp [OneRow, hmodel]⟩

variable {family : EncryptedFieldFamily}

theorem mem_keys_rowsWithCiphertext {db : Database} {pk : Int} {row : Row}
    (hrow : (db.tables family.model).get? pk = some row) :
    pk ∈ (db.rowsWithCiphertext family).map Prod.fst ↔ family.holdsCiphertext row = true := by
  constructor
  · intro h
    obtain ⟨⟨pk', row'⟩, hitem, rfl⟩ := List.mem_map.mp h
    obtain ⟨hitem', hholds⟩ := List.mem_filter.mp hitem
    have hrow' := (Dict.mem_items_iff_get? _ _ _).mp hitem'
    obtain rfl := Option.some.inj (hrow'.symm.trans hrow)
    exact hholds
  · intro h
    have hitem := (Dict.mem_items_iff_get? _ _ _).mpr hrow
    exact List.mem_map.mpr ⟨(pk, row), List.mem_filter.mpr ⟨hitem, h⟩, rfl⟩

theorem wp_rowsWithCiphertext {β : Type} {body : β → Int × Row → Step β} {init : β}
    {db : Database} (rel : Int → Row → Row → Prop) {raised : Database → Failure → Prop}
    (hbody : ∀ db' acc item, (db'.tables family.model).get? item.1 = some item.2 →
      wp (body acc item) db' (fun db'' _ => RowByRow (OneRow family.model item.1 (rel item.1)) db' db'') raised) :
    wp ((db.rowsWithCiphertext family).foldlM body init) db
      (fun db' _ => RowByRow (fun model pk row row' =>
        if model = family.model ∧ family.holdsCiphertext row then rel pk row row' else row' = row) db db')
      raised := by
  have hnodup : ((db.rowsWithCiphertext family).map Prod.fst).Nodup :=
    (db.tables family.model).nodup.sublist (List.filter_sublist.map _)
  refine wp_foldlM (fun done db' _ => RowByRow (fun model pk row row' =>
    if model = family.model ∧ pk ∈ done.map Prod.fst then rel pk row row' else row' = row) db db')
    (RowByRow.refl db (by simp)) ?_ fun db' _ hdone => hdone.mono fun model pk row row' hrow hrel => ?_
  · rintro done item rest hitems db' acc hdone
    -- the row is still as it was read, since no earlier round was about it
    have hnew : item.1 ∉ done.map Prod.fst := by
      rw [hitems, List.map_append, List.map_cons] at hnodup
      exact fun hmem => (List.nodup_append.mp hnodup).2.2 _ hmem _ List.mem_cons_self rfl
    obtain ⟨hrow, -⟩ := db.mem_rowsWithCiphertext.mp (hitems ▸ List.mem_append_right _ List.mem_cons_self)
    obtain ⟨row', hrow', hkept⟩ := hdone.rows _ _ _ hrow
    obtain rfl : row' = item.2 := by simpa [hnew] using hkept
    refine wp_mono (hbody db' acc item hrow') (fun db'' _ hstep => ?_) fun _ _ h => h
    refine hdone.trans hstep fun model pk row row' row'' hrel hrel' => ?_
    unfold OneRow at hrel'
    by_cases hmodel : model = family.model
    · by_cases hpk : pk = item.1
      · subst hpk
        rw [if_neg fun h => hnew h.2] at hrel
        rw [if_pos ⟨hmodel, rfl⟩] at hrel'
        simpa [hmodel, ← hrel] using hrel'
      · rw [if_neg fun h => hpk h.2] at hrel'
        subst hrel'
        have hdone' : pk ∈ (done ++ [item]).map Prod.fst ↔ pk ∈ done.map Prod.fst := by
          rw [List.map_append, List.mem_append]
          simp [hpk]
        simpa only [hdone'] using hrel
    · rw [if_neg fun h => hmodel h.1] at hrel hrel' ⊢
      exact hrel'.trans hrel
  · by_cases hmodel : model = family.model
    · subst hmodel
      simpa [mem_keys_rowsWithCiphertext hrow] using hrel
    · rw [if_neg fun h => hmodel h.1] at hrel ⊢
      exact hrel

end Proxbox.Encryption
