import Proxbox.Encryption.Registry
/-!
# Key rotation

`rotate_encryption_key`. One transaction locks the tables, verifies every ciphertext under the old key, asks
the backends for their attestation, writes the new key and then re-encrypts row by row. Whatever statement
fails on the way, and whatever row cannot be verified, the transaction takes all of it back.
-/

namespace Proxbox.Encryption

open Python Transaction

variable {ν : Type} (env : Environment ν) (cipher : Cipher ν)

/-! ### Verification -/

structure Tally where
  ciphertextCount : Nat
  rowKeys : List (Model × Int)

def unverifiedFailure (storedMatchesOld : Bool) (family : EncryptedFieldFamily) (pk : Int) : Failure :=
  if !storedMatchesOld then
    .recovery .oldEncryptionKeyRejected ("The supplied current encryption key was not "
      ++ "accepted by the stored setting or every encrypted value.")
  else
    .recovery .ciphertextVerificationFailed ("Key rotation was aborted because at least one "
      ++ "encrypted value in " ++ family.label ++ " row " ++ toString pk ++ " could "
      ++ "not be verified. No encrypted values or settings were changed.")

section Verification

variable (oldValue : String) (storedMatchesOld : Bool) (family : EncryptedFieldFamily)

def verifyField (item : Int × Row) (count : Nat) (field : String) : Except Failure Nat :=
  if item.2.secrets field = "" then .ok count
  else
    match decrypt cipher (item.2.secrets field) oldValue with
    | .ok _ => .ok (count + 1)
    | .error _ => .error (unverifiedFailure storedMatchesOld family item.1)

def verifyRow (tally : Tally) (item : Int × Row) : Except Failure Tally := do
  let count ← family.encryptedFields.foldlM
    (verifyField cipher oldValue storedMatchesOld family item) tally.ciphertextCount
  return ⟨count, tally.rowKeys.insert (family.model, item.1)⟩

def verifyFamily (tally : Tally) (family : EncryptedFieldFamily) : Step Tally := do
  statement env (.rows family.key)
  let db ← read
  raising ((db.rowsWithCiphertext family).foldlM (verifyRow cipher oldValue storedMatchesOld family) tally)

end Verification

/-! ### The attestation of the backends -/

/-- A source that is a list or an object cannot be looked up in the set of sources. -/
def attested (payload : Json) : Except Failure Bool :=
  let fields := payload.asDict
  match Fields.get fields "attestation_version" with
  | .int 1 =>
    match Fields.get fields "active_key_source" with
    | .str source => .ok ((source = "env" || source = "local") &&
        match Fields.get fields "encrypted_credentials_verified" with
        | .bool verified => verified
        | _ => false)
    | .arr _ | .obj _ => .error .typeError
    | _ => .ok false
  | _ => .ok false

def dependencyError (message : String) : Failure := .recovery .backendEncryptionDependencyError message

def Row.textColumn (row : Row) (name : String) : String :=
  match row.columns name with
  | .text s => s
  | _ => ""

/-- One round of `_assert_backends_use_independent_encryption`. An endpoint whose target is refused or is not
the adopted one is passed over. -/
def attestBackend (oldKey : String) (item : Int × Row) : Except Failure Unit := do
  let stored := lower (strip (item.2.textColumn "backend_key_target_fingerprint"))
  match env.targetFingerprint item.1 item.2 with
  | none => return
  | some captured =>
    if stored.length ≠ 64 ∨ stored ≠ captured then return
    match decrypt cipher (item.2.secrets "token_enc") oldKey with
    | .error _ => throw (dependencyError ("Plugin-key rotation could not authenticate every configured "
        ++ "proxbox-api encryption-source attestation."))
    | .ok _ =>
      match env.attestation item.1 with
      | none => throw (dependencyError ("Plugin-key rotation could not reach every configured proxbox-api "
          ++ "encryption-source attestation endpoint."))
      | some reply =>
        if reply.statusCode ≠ 200 then
          throw (dependencyError ("Plugin-key rotation requires a successful encryption-source "
            ++ "attestation from every configured proxbox-api target."))
        match reply.body with
        | none => throw (dependencyError ("Plugin-key rotation received an invalid encryption-source "
            ++ "attestation from a configured proxbox-api target."))
        | some payload =>
          if !(← attested payload) then
            throw (dependencyError ("Plugin-key rotation requires proxbox-api's versioned attestation "
              ++ "that its active cached key is independent and decrypts every "
              ++ "stored backend credential. Upgrade and migrate the backend first."))

def assertBackendsUseIndependentEncryption (oldKey : String) : Step Unit := do
  let db ← read
  let endpoints := (db.tables .fastAPIEndpoint).items.filter fun item =>
    item.2.columns "enabled" = .flag true && item.2.secrets "token_enc" ≠ "" &&
      item.2.textColumn "backend_key_target_fingerprint" ≠ ""
  raising (endpoints.forM (attestBackend env cipher oldKey))

/-! ### Re-encryption -/

section Reencryption

variable (oldValue newValue : String)

def reencrypt (model : Model) (pk : Int) (field ciphertext : String) : Except EncryptionError String := do
  encrypt cipher (env.nonce model pk field) (← decrypt cipher ciphertext oldValue) newValue

variable (family : EncryptedFieldFamily)

def replacements (item : Int × Row) : Except Failure (List (String × String)) :=
  (family.encryptedFields.filter (item.2.secrets · ≠ "")).mapM fun field =>
    match reencrypt env cipher oldValue newValue family.model item.1 field (item.2.secrets field) with
    | .ok ciphertext => .ok (field, ciphertext)
    | .error _ => .error (.recovery .ciphertextVerificationFailed ("Key rotation was rolled back because a previously "
        ++ "verified value in " ++ family.label ++ " row " ++ toString item.1 ++ " changed "
        ++ "or could not be re-encrypted. No encrypted values or settings were changed."))

def rotateRow (item : Int × Row) : Step Unit := do
  let replacements ← raising (replacements env cipher oldValue newValue family item)
  if replacements ≠ [] then
    lockedEncryptedQuerysetUpdate env cipher (.writeRow family.model item.1) family.model
      (fun pk _ => pk = item.1) ⟨replacements, []⟩

def rotateFamily : Step Unit := do
  statement env (.rewrittenRows family.key)
  let db ← read
  (db.rowsWithCiphertext family).forM (rotateRow env cipher oldValue newValue family)

end Reencryption

structure RotationResult where
  rowsRotated : Nat
  ciphertextValuesRotated : Nat

def orConfigurationError {α : Type} (message : String) (action : Step α) : Step α :=
  tryCatch action fun
    | .database => throw (configurationError message)
    | failure => throw failure

def oldKeyRejected (message : String) : Failure := .recovery .oldEncryptionKeyRejected message

def nonCanonicalKeyMessage : String :=
  "The encryption key must be a Fernet key: 44 url-safe base64 characters "
    ++ "that decode to 32 random bytes (for example the output of "
    ++ "cryptography.fernet.Fernet.generate_key()). Raw 32-character secrets are "
    ++ "no longer accepted for new keys because they are used without key "
    ++ "derivation; a low-entropy value would become the encryption key."

def rotateAll (oldValue newValue : String) : Step RotationResult := do
  statement env .settings
  let db ← read
  let storedMatchesOld := (keysMatch cipher oldValue db.currentKey).toOption.getD false
  let families ← lockEncryptedFieldTables env
  let tally ← families.foldlM (verifyFamily env cipher oldValue storedMatchesOld) ⟨0, []⟩
  if tally.ciphertextCount = 0 ∧ !storedMatchesOld then
    throw (oldKeyRejected "The supplied current encryption key was not accepted.")
  assertBackendsUseIndependentEncryption env cipher oldValue
  statement env .writeKey
  write fun db => { db with settings := { db.settings with encryptionKey := newValue } }
  families.forM (rotateFamily env cipher oldValue newValue)
  statement env .record
  write fun db => { db with events := db.events ++
    [⟨.rotate, families.map (·.key), tally.rowKeys.length, tally.ciphertextCount⟩] }
  return ⟨tally.rowKeys.length, tally.ciphertextCount⟩

def rotateEncryptionKey (oldKey newKey : String) : Step RotationResult := do
  match keysMatch cipher (strip oldKey) (strip newKey) with
  | .error _ => throw (oldKeyRejected "Both the current and replacement keys must be valid Fernet keys.")
  | .ok sameKey =>
    if sameKey then
      throw (oldKeyRejected "The replacement encryption key must differ from the current key.")
    if !isCanonicalFernetKey cipher (strip newKey) then
      throw (oldKeyRejected nonCanonicalKeyMessage)
    orConfigurationError ("Encryption-key rotation could not access every registered database "
        ++ "table. No encrypted values or settings were changed.")
      (atomic (rotateAll env cipher (strip oldKey) (strip newKey)))

/-! ### What verification counts -/

def Database.ciphertexts (db : Database) (family : EncryptedFieldFamily) : List (Model × Int × String) :=
  (db.rowsWithCiphertext family).flatMap fun item =>
    (family.encryptedFields.filter (item.2.secrets · ≠ "")).map (family.model, item.1, ·)

structure Counted (db : Database) (families : List EncryptedFieldFamily) (tally : Tally) : Prop where
  count : tally.ciphertextCount = (families.flatMap db.ciphertexts).length
  nodup : tally.rowKeys.Nodup
  rows : ∀ key, key ∈ tally.rowKeys ↔
    ∃ family ∈ families, ∃ item ∈ db.rowsWithCiphertext family, key = (family.model, item.1)

section Counting

variable {cipher} {oldValue : String} {storedMatchesOld : Bool} {family : EncryptedFieldFamily}

theorem verifyField_eq_ok {item : Int × Row} {count count' : Nat} {field : String}
    (h : verifyField cipher oldValue storedMatchesOld family item count field = .ok count') :
    count' = count + ([field].filter (item.2.secrets · ≠ "")).length := by
  unfold verifyField at h
  split_ifs at h with hempty
  · obtain rfl := Except.ok.inj h
    simp [hempty]
  · split at h
    · obtain rfl := Except.ok.inj h
      simp [hempty]
    · cases h

theorem verifyRow_eq_ok {item : Int × Row} {tally tally' : Tally}
    (h : verifyRow cipher oldValue storedMatchesOld family tally item = .ok tally') :
    tally'.ciphertextCount
        = tally.ciphertextCount + (family.encryptedFields.filter (item.2.secrets · ≠ "")).length ∧
      tally'.rowKeys = tally.rowKeys.insert (family.model, item.1) := by
  obtain ⟨count, hcount, htally⟩ := bind_eq_ok.mp h
  obtain rfl := Except.ok.inj htally
  refine ⟨?_, rfl⟩
  refine foldlM_eq_ok (fun done count => count = tally.ciphertextCount
    + (done.filter (item.2.secrets · ≠ "")).length) (by simp) ?_ hcount
  intro done field acc acc' hacc hfield
  rw [verifyField_eq_ok hfield, hacc, List.filter_append, List.length_append, Nat.add_assoc]

theorem verifyRows_eq_ok {items : List (Int × Row)} {tally tally' : Tally}
    (h : items.foldlM (verifyRow cipher oldValue storedMatchesOld family) tally = .ok tally')
    (hnodup : tally.rowKeys.Nodup) :
    tally'.ciphertextCount = tally.ciphertextCount + (items.flatMap fun item =>
        (family.encryptedFields.filter (item.2.secrets · ≠ "")).map (family.model, item.1, ·)).length ∧
      tally'.rowKeys.Nodup ∧
      ∀ key, key ∈ tally'.rowKeys ↔ key ∈ tally.rowKeys ∨ ∃ item ∈ items, key = (family.model, item.1) := by
  refine foldlM_eq_ok (fun done acc => acc.ciphertextCount = tally.ciphertextCount + (done.flatMap fun item =>
      (family.encryptedFields.filter (item.2.secrets · ≠ "")).map (family.model, item.1, ·)).length ∧
    acc.rowKeys.Nodup ∧ ∀ key, key ∈ acc.rowKeys ↔ key ∈ tally.rowKeys ∨ ∃ item ∈ done, key = (family.model, item.1))
    ⟨by simp, hnodup, by simp⟩ ?_ h
  rintro done item acc acc' ⟨hcount, hacc, hmem⟩ hitem
  obtain ⟨hcount', hkeys'⟩ := verifyRow_eq_ok hitem
  refine ⟨?_, hkeys' ▸ hacc.insert, fun key => ?_⟩
  · rw [hcount', hcount, List.flatMap_append, List.length_append, List.flatMap_singleton, List.length_map, Nat.add_assoc]
  · rw [hkeys', List.mem_insert_iff, hmem]
    simp only [List.mem_append, List.mem_singleton, or_and_right, exists_or, exists_eq_left]
    exact or_comm.trans or_assoc

theorem verifyFamily_counts {db : Database} {done : List EncryptedFieldFamily} {tally : Tally}
    (hcounted : Counted db done tally) :
    wp (verifyFamily env cipher oldValue storedMatchesOld tally family) db
      (fun db' tally' => db' = db ∧ Counted db (done ++ [family]) tally') fun _ _ => True := by
  simp only [verifyFamily, wp_bind, wp_read, wp_raising]
  refine wp_statement env ⟨fun tally' htally' => ⟨rfl, ?_⟩, fun _ _ => trivial⟩ trivial
  obtain ⟨hcount, hnodup, hmem⟩ := verifyRows_eq_ok htally' hcounted.nodup
  refine ⟨?_, hnodup, fun key => ?_⟩
  · rw [hcount, hcounted.count, List.flatMap_append, List.length_append, List.flatMap_singleton]
    rfl
  · rw [hmem, hcounted.rows]
    simp only [List.mem_append, List.mem_singleton, or_and_right, exists_or, exists_eq_left]

theorem verifyFamilies_counts (db : Database) (families : List EncryptedFieldFamily) :
    wp (families.foldlM (verifyFamily env cipher oldValue storedMatchesOld) ⟨0, []⟩) db
      (fun db' tally => db' = db ∧ Counted db families tally) fun _ _ => True := by
  refine wp_foldlM (fun done db' tally => db' = db ∧ Counted db done tally) ⟨rfl, by simp, by simp, by simp⟩ ?_
    fun _ _ h => h
  rintro done family rest - _ tally ⟨rfl, hcounted⟩
  exact verifyFamily_counts env hcounted

end Counting

/-! ### What re-encryption leaves behind -/

section Rewritten

variable (translate : Model → Int → String → String → Except EncryptionError String)

/-- `row'` is `row` with the given fields translated. -/
structure RowRewritten (fields : Model → String → Prop) (model : Model) (pk : Int) (row row' : Row) : Prop where
  columns : row'.columns = row.columns
  rewritten : ∀ field, fields model field → translate model pk field (row.secrets field) = .ok (row'.secrets field)
  kept : ∀ field, ¬ fields model field → row'.secrets field = row.secrets field

variable {translate}

theorem RowRewritten.trans {first second : Model → String → Prop} {model : Model} {pk : Int} {row row' row'' : Row}
    (hfirst : RowRewritten translate first model pk row row') (hsecond : RowRewritten translate second model pk row' row'')
    (hdisjoint : ∀ field, first model field → ¬ second model field) :
    RowRewritten translate (fun model field => first model field ∨ second model field) model pk row row'' := by
  refine ⟨hsecond.columns.trans hfirst.columns, fun field hfield => ?_, fun field hnot => ?_⟩
  · rcases hfield with hfield | hfield
    · rw [hsecond.kept field (hdisjoint field hfield)]
      exact hfirst.rewritten field hfield
    · have hother : ¬ first model field := fun h => hdisjoint field h hfield
      rw [← hfirst.kept field hother]
      exact hsecond.rewritten field hfield
  · rw [not_or] at hnot
    rw [hsecond.kept field hnot.2, hfirst.kept field hnot.1]

end Rewritten

section Reencryption

variable {env cipher} {oldValue newValue : String} {family : EncryptedFieldFamily}

theorem reencrypt_eq_ok {model : Model} {pk : Int} {field ciphertext ciphertext' : String}
    (h : reencrypt env cipher oldValue newValue model pk field ciphertext = .ok ciphertext') :
    ∃ plaintext, decrypt cipher ciphertext oldValue = .ok plaintext ∧
      decrypt cipher ciphertext' newValue = .ok plaintext := by
  obtain ⟨plaintext, hold, hnew⟩ := bind_eq_ok.mp h
  exact ⟨plaintext, hold, decrypt_encrypt hnew⟩

variable {item : Int × Row} {updates : List (String × String)}

theorem lookup_replacements
    (h : replacements env cipher oldValue newValue family item = .ok updates) (field : String) :
    (field ∈ family.encryptedFields → reencrypt env cipher oldValue newValue family.model item.1 field
        (item.2.secrets field) = .ok (overwrite updates item.2.secrets field)) ∧
      (field ∉ family.encryptedFields → overwrite updates item.2.secrets field = item.2.secrets field) := by
  unfold replacements at h
  generalize family.encryptedFields = fields at h ⊢
  induction fields generalizing updates with
  | nil =>
    obtain rfl := Except.ok.inj h
    exact ⟨nofun, fun _ => rfl⟩
  | cons first rest ih =>
    by_cases hfirst : item.2.secrets first = ""
    · -- an empty field is skipped, and re-encrypting it would leave it empty
      rw [List.filter_cons_of_neg (by simp [hfirst])] at h
      obtain ⟨hrest, hother⟩ := ih h
      refine ⟨fun hmem => ?_, fun hnot => hother fun hmem => hnot (List.mem_cons_of_mem _ hmem)⟩
      rcases List.mem_cons.mp hmem with rfl | hmem
      · by_cases hagain : field ∈ rest
        · exact hrest hagain
        · rw [hother hagain, hfirst]
          rfl
      · exact hrest hmem
    · rw [List.filter_cons_of_pos (by simp [hfirst]), List.mapM_cons] at h
      obtain ⟨head, hhead, h⟩ := bind_eq_ok.mp h
      obtain ⟨tail, htail, h⟩ := bind_eq_ok.mp h
      obtain rfl := Except.ok.inj h
      obtain ⟨hrest, hother⟩ := ih htail
      split at hhead
      · next ciphertext hciphertext =>
          obtain rfl := Except.ok.inj hhead
          rw [overwrite, Dict.lookup_cons_eq_ite]
          by_cases hfield : field = first
          · subst hfield
            exact ⟨fun _ => by simpa using hciphertext, fun hnot => absurd List.mem_cons_self hnot⟩
          · rw [if_neg hfield]
            refine ⟨fun hmem => hrest ((List.mem_cons.mp hmem).resolve_left hfield), fun hnot => ?_⟩
            exact hother fun hmem => hnot (List.mem_cons_of_mem _ hmem)
      · cases hhead

theorem rowRewritten_replacements
    (h : replacements env cipher oldValue newValue family item = .ok updates) :
    RowRewritten (reencrypt env cipher oldValue newValue)
      (fun model field => family.model = model ∧ field ∈ family.encryptedFields) family.model item.1 item.2
      (Updates.apply ⟨updates, []⟩ item.2) :=
  ⟨rfl, fun field hfield => (lookup_replacements h field).1 hfield.2,
    fun field hnot => (lookup_replacements h field).2 fun hfield => hnot ⟨rfl, hfield⟩⟩

theorem rotateRow_rewrites {db : Database} (hrow : (db.tables family.model).get? item.1 = some item.2) :
    wp (rotateRow env cipher oldValue newValue family item) db
      (fun db' _ => RowByRow (OneRow family.model item.1 (RowRewritten (reencrypt env cipher oldValue newValue)
        (fun model field => family.model = model ∧ field ∈ family.encryptedFields) family.model item.1)) db db')
      fun _ _ => True := by
  simp only [rotateRow, wp_bind, wp_raising, wp_ite, wp_pure]
  refine ⟨fun updates hupdates => ?_, fun _ _ => trivial⟩
  have hrewritten := oneRow_update (Updates.apply ⟨updates, []⟩) hrow (rowRewritten_replacements hupdates)
  refine ⟨fun _ => wp_lockedEncryptedQuerysetUpdate env cipher (fun _ => ?_) fun _ => trivial, fun hnone => ?_⟩
  · simpa using hrewritten
  · -- a row without replacements is one that re-encryption leaves as it is
    obtain rfl : updates = [] := not_not.mp hnone
    have hid : Updates.apply ⟨[], []⟩ = id := rfl
    simpa [hid, Database.update_id] using hrewritten

theorem rotateFamily_rewrites (db : Database) :
    wp (rotateFamily env cipher oldValue newValue family) db
      (fun db' _ => RowByRow (RowRewritten (reencrypt env cipher oldValue newValue)
        fun model field => family.model = model ∧ field ∈ family.encryptedFields) db db')
      fun _ _ => True := by
  simp only [rotateFamily, wp_bind, wp_read, forM_eq_foldlM]
  refine wp_statement env (wp_mono (wp_rowsWithCiphertext _ fun db' _ item => rotateRow_rewrites) ?_ fun _ _ h => h) trivial
  refine fun db' _ h => h.mono fun model pk row row' _ hrow => ?_
  split_ifs at hrow with hselected
  · obtain ⟨rfl, -⟩ := hselected
    exact hrow
  · -- a row the query leaves out has no ciphertext of the family
    subst hrow
    refine ⟨rfl, fun field hfield => ?_, fun _ _ => rfl⟩
    obtain ⟨rfl, hfield⟩ := hfield
    have hempty : row'.secrets field = "" := by
      by_contra hne
      exact hselected ⟨rfl, List.any_eq_true.mpr ⟨field, hfield, by simpa using hne⟩⟩
    rw [hempty]
    rfl

theorem rotateFamilies_rewrites (db : Database) {families : List EncryptedFieldFamily} (hnodup : families.Nodup)
    (hregistered : ∀ family ∈ families, family ∈ encryptedFieldFamilies) :
    wp (families.forM (rotateFamily env cipher oldValue newValue)) db
      (fun db' _ => RowByRow (RowRewritten (reencrypt env cipher oldValue newValue)
        fun model field => ∃ family ∈ families, family.model = model ∧ field ∈ family.encryptedFields) db db')
      fun _ _ => True := by
  refine wp_forM (fun done db' => RowByRow (RowRewritten (reencrypt env cipher oldValue newValue)
    fun model field => ∃ family ∈ done, family.model = model ∧ field ∈ family.encryptedFields) db db')
    (RowByRow.refl db fun _ _ _ => ⟨rfl, nofun, fun _ _ => rfl⟩) ?_ fun _ h => h
  rintro done family rest hfamilies db' hdone
  refine wp_mono (rotateFamily_rewrites db') (fun db'' _ hfamily => ?_) fun _ _ _ => trivial
  refine hdone.trans hfamily fun model pk row row' row'' hfirst hsecond => ?_
  have hboth := hfirst.trans hsecond ?_
  · simpa only [List.mem_append, List.mem_singleton, or_and_right, exists_or, exists_eq_left] using hboth
  · rintro field ⟨first, hmem, rfl, hfield⟩ ⟨hmodel, hfield'⟩
    have hne : first ≠ family := by
      rw [hfamilies] at hnodup
      exact (List.nodup_append.mp hnodup).2.2 first hmem family List.mem_cons_self
    exact families_disjoint first (hregistered first (hfamilies ▸ List.mem_append_left _ hmem)) family
      (hregistered family (hfamilies ▸ List.mem_append_right _ List.mem_cons_self)) hne hmodel.symm field hfield hfield'

end Reencryption

/-! ### The rotation as a whole -/

/-- Each ciphertext has its plaintext under the new key, no other column has changed, and the counts are those
of the re-encrypted values. -/
structure Rotated (oldKey newKey : String) (db db' : Database) (result : RotationResult) : Prop where
  settings : db'.settings = { db.settings with encryptionKey := strip newKey }
  installed : db'.installed = db.installed
  absent : ∀ model pk, (db.tables model).get? pk = none → (db'.tables model).get? pk = none
  rows : ∀ model pk row, (db.tables model).get? pk = some row → ∃ row', (db'.tables model).get? pk = some row' ∧
    row'.columns = row.columns ∧
    (∀ field ∈ encryptedFields model, row.secrets field ≠ "" → ∃ plaintext,
      decrypt cipher (row.secrets field) (strip oldKey) = .ok plaintext ∧
      decrypt cipher (row'.secrets field) (strip newKey) = .ok plaintext) ∧
    ∀ field, field ∉ encryptedFields model ∨ row.secrets field = "" → row'.secrets field = row.secrets field
  values : ∃ values : List (Model × Int × String), values.Nodup ∧
    (∀ model pk field, (model, pk, field) ∈ values ↔ field ∈ encryptedFields model ∧
      ∃ row, (db.tables model).get? pk = some row ∧ row.secrets field ≠ "") ∧
    result.ciphertextValuesRotated = values.length
  rowKeys : ∃ keys : List (Model × Int), keys.Nodup ∧
    (∀ model pk, (model, pk) ∈ keys ↔ ∃ row, (db.tables model).get? pk = some row ∧
      ∃ field ∈ encryptedFields model, row.secrets field ≠ "") ∧
    result.rowsRotated = keys.length
  events : db'.events = db.events ++
    [⟨.rotate, db.available.map (·.key), result.rowsRotated, result.ciphertextValuesRotated⟩]

theorem mem_ciphertexts {db : Database} {family : EncryptedFieldFamily} {model : Model} {pk : Int} {field : String} :
    (model, pk, field) ∈ db.ciphertexts family ↔ family.model = model ∧ field ∈ family.encryptedFields ∧
      ∃ row, (db.tables model).get? pk = some row ∧ row.secrets field ≠ "" := by
  simp only [Database.ciphertexts, List.mem_flatMap, List.mem_map, List.mem_filter, Prod.exists,
    Database.mem_rowsWithCiphertext, Prod.mk.injEq, decide_eq_true_eq]
  constructor
  · rintro ⟨pk, row, ⟨hrow, -⟩, field, ⟨hfield, hne⟩, rfl, rfl, rfl⟩
    exact ⟨rfl, hfield, row, hrow, hne⟩
  · rintro ⟨rfl, hfield, row, hrow, hne⟩
    exact ⟨pk, row, ⟨hrow, field, hfield, hne⟩, field, ⟨hfield, hne⟩, rfl, rfl, rfl⟩

theorem exists_available_iff {db : Database} (hdormant : db.dormantCiphertextExists = false) {model : Model} {pk : Int}
    {row : Row} (hrow : (db.tables model).get? pk = some row) {field : String} (hne : row.secrets field ≠ "") :
    (∃ family ∈ db.available, family.model = model ∧ field ∈ family.encryptedFields)
      ↔ field ∈ encryptedFields model := by
  rw [mem_encryptedFields]
  constructor
  · rintro ⟨family, hfamily, hmodel, hfield⟩
    exact ⟨family, (db.mem_available.mp hfamily).1, hmodel, hfield⟩
  · rintro ⟨family, hfamily, rfl, hfield⟩
    have hitem : (pk, row) ∈ db.rowsWithCiphertext family :=
      db.mem_rowsWithCiphertext.mpr ⟨hrow, field, hfield, hne⟩
    exact ⟨family, db.available_of_ciphertext hdormant hfamily hitem, rfl, hfield⟩

theorem ciphertexts_nodup (db : Database) : (db.available.flatMap db.ciphertexts).Nodup := by
  rw [List.nodup_flatMap]
  refine ⟨fun family hfamily => ?_, ?_⟩
  · rw [Database.ciphertexts, List.nodup_flatMap]
    have hfields := encryptedFields_nodup_of_family family (db.mem_available.mp hfamily).1
    refine ⟨fun item _ => (hfields.filter _).map fun _ _ h => (Prod.mk.inj (Prod.mk.inj h).2).2, ?_⟩
    have hkeys : ((db.rowsWithCiphertext family).map Prod.fst).Nodup :=
      (db.tables family.model).nodup.sublist (List.filter_sublist.map _)
    refine (List.pairwise_map.mp hkeys).imp fun hne value hfirst hsecond => hne ?_
    obtain ⟨field, -, rfl⟩ := List.mem_map.mp hfirst
    obtain ⟨field', -, hsame⟩ := List.mem_map.mp hsecond
    exact (Prod.mk.inj (Prod.mk.inj hsame).2).1.symm
  · refine db.available_nodup.imp_of_mem fun hfirst hsecond hne => ?_
    rintro ⟨model, pk, field⟩ hmem hmem'
    obtain ⟨hmodel, hfield, -⟩ := mem_ciphertexts.mp hmem
    obtain ⟨hmodel', hfield', -⟩ := mem_ciphertexts.mp hmem'
    exact families_disjoint _ (db.mem_available.mp hfirst).1 _ (db.mem_available.mp hsecond).1 hne
      (hmodel.trans hmodel'.symm) field hfield hfield'

section Whole

variable {env cipher} {db db' : Database} {oldKey newKey : String} {tally : Tally}

theorem counted_values (hdormant : db.dormantCiphertextExists = false) (hcounted : Counted db db.available tally) :
    ∃ values : List (Model × Int × String), values.Nodup ∧
      (∀ model pk field, (model, pk, field) ∈ values ↔ field ∈ encryptedFields model ∧
        ∃ row, (db.tables model).get? pk = some row ∧ row.secrets field ≠ "") ∧
      tally.ciphertextCount = values.length := by
  refine ⟨_, ciphertexts_nodup db, fun model pk field => ?_, hcounted.count⟩
  simp only [List.mem_flatMap, mem_ciphertexts]
  constructor
  · rintro ⟨family, hfamily, hmodel, hfield, row, hrow, hne⟩
    exact ⟨(exists_available_iff hdormant hrow hne).mp ⟨family, hfamily, hmodel, hfield⟩, row, hrow, hne⟩
  · rintro ⟨hfield, row, hrow, hne⟩
    obtain ⟨family, hfamily, hmodel, hfield⟩ := (exists_available_iff hdormant hrow hne).mpr hfield
    exact ⟨family, hfamily, hmodel, hfield, row, hrow, hne⟩

theorem counted_rows (hdormant : db.dormantCiphertextExists = false) (hcounted : Counted db db.available tally)
    (model : Model) (pk : Int) : (model, pk) ∈ tally.rowKeys ↔ ∃ row, (db.tables model).get? pk = some row ∧
      ∃ field ∈ encryptedFields model, row.secrets field ≠ "" := by
  rw [hcounted.rows]
  constructor
  · rintro ⟨family, hfamily, ⟨pk, row⟩, hitem, hkey⟩
    obtain ⟨rfl, rfl⟩ := Prod.mk.inj hkey
    obtain ⟨hrow, field, hfield, hne⟩ := db.mem_rowsWithCiphertext.mp hitem
    exact ⟨row, hrow, field, (exists_available_iff hdormant hrow hne).mp ⟨family, hfamily, rfl, hfield⟩, hne⟩
  · rintro ⟨row, hrow, field, hfield, hne⟩
    obtain ⟨family, hfamily, rfl, hmem⟩ := (exists_available_iff hdormant hrow hne).mpr hfield
    exact ⟨family, hfamily, (pk, row), db.mem_rowsWithCiphertext.mpr ⟨hrow, field, hmem, hne⟩, rfl⟩

theorem rows_of_rewritten {oldValue newValue : String} (hdormant : db.dormantCiphertextExists = false) {model : Model}
    {pk : Int} {row row' : Row} (hrow : (db.tables model).get? pk = some row)
    (h : RowRewritten (reencrypt env cipher oldValue newValue)
      (fun model field => ∃ family ∈ db.available, family.model = model ∧ field ∈ family.encryptedFields)
      model pk row row') :
    (∀ field ∈ encryptedFields model, row.secrets field ≠ "" → ∃ plaintext,
      decrypt cipher (row.secrets field) oldValue = .ok plaintext ∧
      decrypt cipher (row'.secrets field) newValue = .ok plaintext) ∧
    ∀ field, field ∉ encryptedFields model ∨ row.secrets field = "" → row'.secrets field = row.secrets field := by
  refine ⟨fun field hfield hne => ?_, fun field hfield => ?_⟩
  · exact reencrypt_eq_ok (h.rewritten field ((exists_available_iff hdormant hrow hne).mpr hfield))
  · by_cases hrewritten : ∃ family ∈ db.available, family.model = model ∧ field ∈ family.encryptedFields
    · have hempty : row.secrets field = "" := by
        refine hfield.resolve_left fun hnot => hnot ?_
        obtain ⟨family, hfamily, hmodel, hmem⟩ := hrewritten
        exact mem_encryptedFields.mpr ⟨family, (db.mem_available.mp hfamily).1, hmodel, hmem⟩
      have hsame := h.rewritten field hrewritten
      rw [hempty] at hsame ⊢
      exact (Except.ok.inj hsame).symm
    · exact h.kept field hrewritten

variable {raised : Database → Failure → Prop}

theorem wp_assertBackendsUseIndependentEncryption {value : Database → Unit → Prop}
    (hvalue : value db ()) (hraised : ∀ failure, raised db failure) :
    wp (assertBackendsUseIndependentEncryption env cipher oldKey) db value raised := by
  simp only [assertBackendsUseIndependentEncryption, wp_bind, wp_read, wp_raising]
  exact ⟨fun _ _ => hvalue, fun failure _ => hraised failure⟩

theorem rotateAll_rotates :
    wp (rotateAll env cipher (strip oldKey) (strip newKey)) db
      (fun db' result => Rotated cipher oldKey newKey db db' result) fun _ _ => True := by
  simp only [rotateAll, wp_bind, wp_read]
  refine wp_statement env (wp_lockEncryptedFieldTables env (fun hdormant => ?_) fun _ => trivial) trivial
  refine wp_mono (verifyFamilies_counts env db db.available) ?_ fun _ _ _ => trivial
  rintro db tally ⟨rfl, hcounted⟩
  simp only [wp_ite, wp_throw, wp_bind, wp_pure, implies_true, true_and]
  refine fun _ => wp_assertBackendsUseIndependentEncryption ?_ fun _ => trivial
  refine wp_statement env (wp_write.mpr ?_) trivial
  refine wp_mono (rotateFamilies_rewrites _ db.available_nodup fun family h => (db.mem_available.mp h).1) ?_
    fun _ _ _ => trivial
  intro db' _ h
  refine wp_statement env (wp_write.mpr ?_) trivial
  refine ⟨h.settings, h.installed, h.absent, fun model pk row hrow => ?_, counted_values hdormant hcounted,
    ⟨_, hcounted.nodup, counted_rows hdormant hcounted, rfl⟩, by rw [h.events]⟩
  obtain ⟨row', hrow', hrewritten⟩ := h.rows model pk row hrow
  exact ⟨row', hrow', hrewritten.columns, rows_of_rewritten hdormant hrow hrewritten⟩

theorem wp_orConfigurationError {α : Type} {message : String} {action : Step α} {value : Database → α → Prop}
    (h : wp action db value fun db' _ => ∀ failure, raised db' failure) :
    wp (orConfigurationError message action) db value raised := by
  rw [orConfigurationError, wp_tryCatch]
  refine wp_mono h (fun _ _ h => h) fun db' failure hraised => ?_
  cases failure <;> exact wp_throw.mpr (hraised _)

theorem wp_rotateEncryptionKey {value : Database → RotationResult → Prop}
    (hvalue : ∀ db' result, Rotated cipher oldKey newKey db db' result → value db' result)
    (hraised : ∀ failure, raised db failure) : wp (rotateEncryptionKey env cipher oldKey newKey) db value raised := by
  unfold rotateEncryptionKey
  split
  · exact wp_throw.mpr (hraised _)
  · simp only [wp_bind, wp_ite, wp_throw]
    refine ⟨fun _ => hraised _, fun _ => ⟨fun _ => hraised _, fun _ => wp_orConfigurationError ?_⟩⟩
    rw [wp_atomic]
    exact wp_mono rotateAll_rotates hvalue fun _ _ _ => hraised

end Whole

/-- A rotation re-encrypts every ciphertext under the new key, or raises and leaves the database as it was,
wherever it fails. -/
theorem rotateEncryptionKey_allOrNothing (oldKey newKey : String) (db : Database) :
    wp (rotateEncryptionKey env cipher oldKey newKey) db
      (fun db' result => Rotated cipher oldKey newKey db db' result) fun db' _ => db' = db :=
  wp_rotateEncryptionKey (fun _ _ h => h) fun _ => rfl

end Proxbox.Encryption
