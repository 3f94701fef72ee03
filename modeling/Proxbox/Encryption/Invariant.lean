import Proxbox.Encryption.Writers
/-!
# The stored key opens every ciphertext

Whatever writes the tables or the settings keeps `Decryptable`, whether it returns or raises, but for one write: a
`bulk_create` of the settings whose `update_fields` the guard does not see can blank the key under stored
ciphertext. The copies the writers hold are arbitrary: nothing is assumed about when an instance was read or a
snapshot taken.
-/

namespace Proxbox.Encryption

open Python Transaction

variable {ν : Type} {env : Environment ν} {cipher : Cipher ν} {db db' : Database} {model : Model}

/-! ### What keeps the rows decryptable -/

variable {key : String}

theorem RowDecryptable.of_opens {row : Row}
    (h : ∀ field ∈ encryptedFields model, opens cipher key (row.secrets field) = true) :
    RowDecryptable cipher key model row :=
  fun field hfield _ => h field hfield

theorem RowDecryptable.opens {row : Row} (h : RowDecryptable cipher key model row) {field : String}
    (hfield : field ∈ encryptedFields model) : opens cipher key (row.secrets field) = true := by
  by_cases hempty : row.secrets field = ""
  · rw [hempty, opens_empty]
  · exact h field hfield hempty

theorem Decryptable.update {f : Int → Row → Row} (h : Decryptable cipher db)
    (hf : ∀ pk row, RowDecryptable cipher db.currentKey model row → RowDecryptable cipher db.currentKey model (f pk row)) :
    Decryptable cipher (db.update model f) := by
  intro model' pk row hrow
  rw [Database.tables_update] at hrow
  split_ifs at hrow with hmodel
  · subst hmodel
    rw [Dict.get?_mapValues, Option.map_eq_some_iff] at hrow
    obtain ⟨old, hold, rfl⟩ := hrow
    exact hf pk old (h _ pk old hold)
  · exact h model' pk row hrow

theorem Decryptable.insert {pk : Int} {row : Row} (h : Decryptable cipher db)
    (hrow : RowDecryptable cipher db.currentKey model row) : Decryptable cipher (db.insert model pk row) := by
  intro model' pk' row' hrow'
  by_cases hmodel : model' = model
  · subst hmodel
    simp only [Database.insert, Function.update_self, Dict.get?_set] at hrow'
    split_ifs at hrow'
    · obtain rfl := Option.some.inj hrow'
      exact hrow
    · exact h _ pk' row' hrow'
  · simp only [Database.insert, Function.update_of_ne hmodel] at hrow'
    exact h model' pk' row' hrow'

theorem Decryptable.of_key (h : Decryptable cipher db) (htables : db'.tables = db.tables)
    (hkey : db'.currentKey = db.currentKey) : Decryptable cipher db' := by
  intro model pk row hrow
  rw [hkey]
  exact h model pk row (htables ▸ hrow)

theorem decryptable_of_no_payloads (htables : db'.tables = db.tables) (hnone : db.encryptedPayloadsExist = false) :
    Decryptable cipher db' := by
  intro model pk row hrow field hfield hne
  rw [htables] at hrow
  obtain ⟨family, hfamily, rfl, hmem⟩ := mem_encryptedFields.mp hfield
  obtain ⟨havailable, hdormant⟩ := Bool.or_eq_false_iff.mp hnone
  have hitem : (pk, row) ∈ db.rowsWithCiphertext family :=
    db.mem_rowsWithCiphertext.mpr ⟨hrow, field, hmem, hne⟩
  have hempty := List.any_eq_false.mp havailable family (db.available_of_ciphertext hdormant hfamily hitem)
  rw [Bool.not_eq_true, Bool.not_eq_false', List.isEmpty_iff] at hempty
  rw [hempty] at hitem
  cases hitem

def Preserves {α : Type} (cipher : Cipher ν) (action : Step α) : Prop :=
  ∀ db, Decryptable cipher db → wp action db (fun db' _ => Decryptable cipher db') fun db' _ => Decryptable cipher db'

/-! ### The settings -/

variable {raised : Database → Failure → Prop}

theorem wp_asKeyValidation {α : Type} {action : Step α} {value : Database → α → Prop} (h : wp action db value fun db' _ =>
    ∀ failure, raised db' failure) :
    wp (asKeyValidation action) db value raised := by
  rw [asKeyValidation, wp_tryCatch]
  refine wp_mono h (fun _ _ h => h) fun db' failure hraised => ?_
  cases failure <;> exact wp_throw.mpr (hraised _)

theorem wp_assertOrdinaryKeyMutationAllowed {current proposed : String} {value : Database → Unit → Prop}
    (hvalue : strip current = strip proposed ∨ db.encryptedPayloadsExist = false → value db ())
    (hraised : ∀ failure, raised db failure) :
    wp (assertOrdinaryKeyMutationAllowed env current proposed) db value raised := by
  simp only [assertOrdinaryKeyMutationAllowed, wp_bind, wp_ite, wp_pure, wp_throw, wp_read]
  refine ⟨fun hsame => hvalue (.inl hsame), fun _ => ⟨fun _ => hraised _, fun _ => ⟨fun _ => hraised _, fun hnone => ?_⟩⟩⟩
  exact hvalue (.inr (by simpa using hnone))

variable {updateFields : Option (List String)}

theorem wp_settingsWrite {inst : Settings} {saved : Bool} {value : Database → Unit → Prop}
    (hvalue : saved = true → db.settings.pk = inst.pk →
      value { db with settings := inst.onto updateFields db.settings } ())
    (hraised : raised db .database) : wp (settingsWrite env inst saved updateFields) db value raised := by
  simp only [settingsWrite, wp_bind, wp_read, wp_ite, wp_throw]
  refine ⟨fun _ => hraised, fun hstored => wp_statement env (wp_write.mpr ?_) hraised⟩
  simp only [Bool.or_eq_true, Bool.not_eq_true', decide_eq_true_eq, not_or, Bool.not_eq_false, not_not] at hstored
  exact hvalue hstored.1 hstored.2

theorem onto_encryptionKey_of_not_writes {inst row : Settings}
    (h : writes updateFields "encryption_key" = false) : (inst.onto updateFields row).encryptionKey = row.encryptionKey := by
  simp [Settings.onto, h]

theorem onto_encryptionKey_of_writes {inst row : Settings} (h : writes updateFields "encryption_key" = true) :
    (inst.onto updateFields row).encryptionKey = inst.encryptionKey := by
  simp [Settings.onto, h]

structure SettingsWritten (cipher : Cipher ν) (db db' : Database) : Prop where
  tables : db'.tables = db.tables
  decryptable : Decryptable cipher db → Decryptable cipher db'

theorem SettingsWritten.refl (db : Database) : SettingsWritten cipher db db := ⟨rfl, id⟩

theorem wp_settingsSaveChecked {inst : Settings}
    {value : Database → Unit → Prop} (hwrites : writes updateFields "encryption_key" = true)
    (hvalue : SettingsWritten cipher db { db with settings := inst.onto updateFields db.settings } →
      value { db with settings := inst.onto updateFields db.settings } ())
    (hraised : ∀ failure, raised db failure) :
    wp (settingsSaveChecked env cipher inst updateFields) db value raised := by
  simp only [settingsSaveChecked, wp_bind, wp_read, wp_ite, wp_raising]
  refine wp_statement env ⟨fun hother => ⟨fun _ _ => ?_, fun _ _ => hraised _⟩, fun _ => ⟨fun _ => ?_, fun hsame => ?_⟩⟩
    (hraised _)
  · exact wp_settingsWrite (fun _ hpk => absurd hpk hother) (hraised _)
  · refine wp_lockEncryptedFieldTables env (fun _ => wp_assertOrdinaryKeyMutationAllowed (fun hallowed => ?_) hraised)
      hraised
    refine ⟨fun _ _ => wp_settingsWrite (fun _ _ => hvalue ⟨rfl, fun hdecryptable => ?_⟩) (hraised _),
      fun _ _ => hraised _⟩
    rcases hallowed with hsame | hnone
    · refine hdecryptable.of_key rfl ?_
      rw [Database.currentKey, onto_encryptionKey_of_writes hwrites, ← hsame]
      rfl
    · exact decryptable_of_no_payloads rfl hnone
  · refine wp_settingsWrite (fun _ _ => hvalue ⟨rfl, fun hdecryptable => hdecryptable.of_key rfl ?_⟩) (hraised _)
    rw [Database.currentKey, onto_encryptionKey_of_writes hwrites, ← not_not.mp hsame]
    rfl

theorem wp_settingsSave {inst : Settings} {saved : Bool} {value : Database → Unit → Prop}
    (hvalue : SettingsWritten cipher db { db with settings := inst.onto updateFields db.settings } →
      value { db with settings := inst.onto updateFields db.settings } ())
    (hraised : ∀ failure, raised db failure) :
    wp (settingsSave env cipher inst saved updateFields) db value raised := by
  simp only [settingsSave, wp_bind, wp_ite, wp_raising]
  refine ⟨fun hskips => ?_, fun hchecks => ?_⟩
  · have hwrite : wp (settingsWrite env inst saved updateFields) db value raised := by
      refine wp_settingsWrite (fun hsaved _ => hvalue ⟨rfl, fun hdecryptable => hdecryptable.of_key rfl ?_⟩) (hraised _)
      have hskipped : writes updateFields "encryption_key" = false := by simpa [hsaved] using hskips
      exact congrArg strip (onto_encryptionKey_of_not_writes hskipped)
    exact ⟨fun _ => ⟨fun _ _ => hwrite, fun _ _ => hraised _⟩, fun _ => hwrite⟩
  · have hwrites : writes updateFields "encryption_key" = true := by
      simp only [Bool.or_eq_true, Bool.not_eq_true', not_or, Bool.not_eq_false] at hchecks
      exact hchecks.2
    refine wp_asKeyValidation ?_
    rw [wp_atomic]
    exact wp_settingsSaveChecked hwrites hvalue fun _ => hraised

theorem guardedSettingsUpdate_preserves {encryptionKey : Option String} {columns : List (String × Value)} :
    Preserves cipher (guardedSettingsUpdate env encryptionKey columns) := by
  intro db h
  simp only [guardedSettingsUpdate, wp_bind, wp_ite, wp_throw]
  exact ⟨fun _ => h, fun _ => wp_statement env (wp_write.mpr (h.of_key rfl rfl)) h⟩

/-! ### The saves -/

variable {nextPk : Int} {inst : Instance}

theorem onto_rowDecryptable {row : Row} (h : RowDecryptable cipher key model row)
    (hinst : ∀ field ∈ encryptedFields model, writes updateFields field = true →
      opens cipher key (inst.secrets field) = true) :
    RowDecryptable cipher key model (inst.onto updateFields row) := by
  refine RowDecryptable.of_opens fun field hfield => ?_
  simp only [Instance.onto]
  split_ifs with hwrites
  · exact hinst field hfield hwrites
  · exact h.opens hfield

def Database.saved (db : Database) (model : Model) (pk : Int) (inst : Instance) (updateFields : Option (List String)) :
    Database :=
  db.update model fun pk' row => if pk' = pk then inst.onto updateFields row else row

theorem wp_modelSave {pk : Int} {stored : Row} {value : Database → Unit → Prop}
    (hstored : (db.tables model).get? pk = some stored) (hpk : inst.pk = some pk)
    (hvalue : value (db.saved model pk inst updateFields) ())
    (hraised : env.fails (.writeRow model pk) = true → raised db .database) :
    wp (modelSave env model nextPk inst updateFields) db value raised := by
  simp only [modelSave, wp_bind, wp_read, wp_ite, wp_throw, wp_write, hpk, Option.getD_some, hstored]
  exact wp_statement_of env ⟨fun _ => hvalue, fun habsent => absurd rfl habsent⟩ hraised

theorem modelSave_decryptable (h : Decryptable cipher db)
    (hinst : ∀ field ∈ encryptedFields model, writes updateFields field = true →
      opens cipher db.currentKey (inst.secrets field) = true)
    (hraised : ∀ failure, raised db failure) :
    wp (modelSave env model nextPk inst updateFields) db (fun db' _ => Decryptable cipher db') raised := by
  simp only [modelSave, wp_bind, wp_read, wp_ite, wp_throw, wp_write]
  refine wp_statement env ⟨fun _ => h.update fun pk row hrow => ?_, fun _ => ⟨fun _ => hraised _, fun hnew => ?_⟩⟩
    (hraised _)
  · split_ifs
    · exact onto_rowDecryptable hrow hinst
    · exact hrow
  · -- an insertion comes without `update_fields` and so writes every column
    have hnone : updateFields = none := by
      cases updateFields with
      | none => rfl
      | some fields => simp at hnew
    exact h.insert (RowDecryptable.of_opens fun field hfield => hinst field hfield (by rw [hnone]; rfl))

variable {transition : Transition}

theorem wp_encryptPrimarySecret {nonce : ν} {plaintext : String} {value : Database → String → Prop}
    (hvalue : ∀ db' ciphertext, SettingsWritten cipher db db' → opens cipher db'.currentKey ciphertext = true →
      value db' ciphertext)
    (hraised : ∀ db' failure, SettingsWritten cipher db db' → raised db' failure) :
    wp (encryptPrimarySecret env cipher transition nonce plaintext) db value raised := by
  simp only [encryptPrimarySecret, getOrCreatePrimarySecretKey, wp_bind, wp_ite, wp_pure, wp_read]
  refine ⟨fun _ => hvalue db "" (.refl db) rfl, fun _ => ⟨fun _ => ?_, fun _ => ?_⟩⟩
  · cases hresult : encrypt cipher nonce plaintext db.currentKey with
    | ok ciphertext => exact wp_pure.mpr (hvalue db ciphertext (.refl db) (opens_encrypt hresult))
    | error error => exact wp_throw.mpr (hraised db _ (.refl db))
  · refine wp_settingsSave (fun hwritten => ?_) fun failure => hraised db failure (.refl db)
    cases hresult : encrypt cipher nonce plaintext transition.generatedKey.text with
    | ok ciphertext =>
      refine wp_pure.mpr (hvalue _ ciphertext hwritten ?_)
      rw [Database.currentKey, onto_encryptionKey_of_writes (by decide), transition.generatedKey.strip_text]
      exact opens_encrypt hresult
    | error error => exact wp_throw.mpr (hraised _ _ hwritten)

theorem wp_tokenCiphertext {pk : Int} {previous : Option Row} {token : TokenWrite} {value : Database → String → Prop}
    (hvalue : ∀ db' ciphertext, SettingsWritten cipher db db' →
      ((∀ row, previous = some row → RowDecryptable cipher db.currentKey .fastAPIEndpoint row) →
        opens cipher db'.currentKey ciphertext = true) → value db' ciphertext)
    (hraised : ∀ db' failure, SettingsWritten cipher db db' → raised db' failure) :
    wp (tokenCiphertext env cipher transition pk previous token) db value raised := by
  cases token with
  | keep =>
    refine wp_pure.mpr (hvalue db _ (.refl db) fun hprevious => ?_)
    cases previous with
    | none => rfl
    | some row => exact (hprevious row rfl).opens (by decide)
  | blank => exact wp_pure.mpr (hvalue db "" (.refl db) fun _ => rfl)
  | fresh candidate =>
    exact wp_encryptPrimarySecret (fun db' ciphertext hwritten hopens => hvalue db' ciphertext hwritten fun _ => hopens)
      hraised

theorem fastAPIEndpointSave_preserves :
    Preserves cipher (fastAPIEndpointSave env cipher transition nextPk inst updateFields) := by
  intro db h
  simp only [fastAPIEndpointSave, wp_bind, wp_raising, wp_ite, wp_read, wp_atomic]
  refine ⟨fun _ _ => ⟨fun hother => ?_, fun _ => ?_⟩, fun _ _ => h⟩
  · refine ⟨fun _ _ => modelSave_decryptable h (fun field hfield hwrites => ?_) fun _ => h, fun _ _ => h⟩
    -- the save leaves `token_enc` out
    obtain rfl : field = "token_enc" := by simpa using (show field ∈ ["token_enc"] from hfield)
    cases updateFields with
    | none => simp at hother
    | some fields =>
      have hmem : "token_enc" ∈ fields := by simpa [writes_some (List.mem_append_left _ hfield)] using hwrites
      have hupdates : updatesBackendKeyState fields = true := List.any_eq_true.mpr ⟨_, hmem, by decide⟩
      simp [hupdates] at hother
  · refine ⟨fun _ _ => ⟨fun _ _ => ⟨fun outcome _ => ?_, fun _ _ => h⟩, fun _ _ => h⟩, fun _ _ => h⟩
    refine wp_tokenCiphertext (fun db' ciphertext hwritten hopens => ?_) fun _ _ _ => h
    refine modelSave_decryptable (hwritten.decryptable h) (fun field hfield _ => ?_) fun _ => h
    obtain rfl : field = "token_enc" := by simpa using (show field ∈ ["token_enc"] from hfield)
    have hcurrent := hopens fun row hrow => by
      obtain ⟨pk, -, hstored⟩ := Option.bind_eq_some_iff.mp hrow
      exact h _ pk row hstored
    simpa [Instance.adopting] using hcurrent

theorem saveBoundEndpoint_decryptable (h : Decryptable cipher db)
    (hinst : ∀ field ∈ encryptedFields .proxmoxEndpoint, writes updateFields field = true →
      opens cipher db.currentKey (inst.secrets field) = true)
    (hraised : ∀ failure, raised db failure) :
    wp (saveBoundEndpoint env nextPk inst updateFields) db (fun db' _ => Decryptable cipher db') raised := by
  simp only [saveBoundEndpoint, wp_atomic, wp_bind, wp_read, wp_raising]
  refine ⟨fun _ _ => ⟨fun _ _ => ?_, fun _ _ => hraised _⟩, fun _ _ => hraised _⟩
  exact modelSave_decryptable h hinst hraised

theorem originalSave_decryptable (h : Decryptable cipher db)
    (hinst : model ≠ .fastAPIEndpoint → ∀ field ∈ encryptedFields model, writes updateFields field = true →
      opens cipher db.currentKey (inst.secrets field) = true)
    (hraised : ∀ db' failure, Decryptable cipher db' → raised db' failure) :
    wp (originalSave env cipher model transition nextPk inst updateFields) db
      (fun db' _ => Decryptable cipher db') raised := by
  unfold originalSave
  split
  · exact wp_mono (fastAPIEndpointSave_preserves db h) (fun _ _ h => h) hraised
  · exact saveBoundEndpoint_decryptable h (hinst (by decide)) fun failure => hraised db failure h
  · rename_i hmodel _
    exact modelSave_decryptable h (hinst hmodel) fun failure => hraised db failure h

theorem guardedSave_preserves :
    Preserves cipher (guardedSave env cipher model transition nextPk inst updateFields) := by
  intro db h
  simp only [guardedSave, wp_ite, wp_atomic, wp_bind, wp_read, wp_raising]
  refine ⟨fun hunrelated => originalSave_decryptable h (fun _ field hfield hwrites => ?_) fun _ _ h' => h', fun _ => ?_⟩
  · cases updateFields with
    | none => simp at hunrelated
    | some fields =>
      have hout := List.all_eq_true.mp hunrelated field (List.mem_append_left _ hfield)
      rw [writes_some (List.mem_append_left _ hfield)] at hwrites
      simp_all
  · refine wp_statement env ⟨fun _ _ => ⟨fun _ => ⟨fun _ haccepted => ?_, fun _ _ => h⟩, fun hskips => ?_⟩,
      fun _ _ => h⟩ h
    · refine originalSave_decryptable h (fun _ field hfield _ => ?_) fun _ _ _ => h
      exact List.all_eq_true.mp (ensure_eq_ok.mp haccepted) field hfield
    · refine originalSave_decryptable h (fun hmodel => absurd ?_ hmodel) fun _ _ _ => h
      simp only [Bool.not_eq_true', Bool.not_eq_false, Bool.and_eq_true, decide_eq_true_eq] at hskips
      exact hskips.2

/-! ### The querysets -/

variable {updates : Updates}

theorem apply_rowDecryptable {row : Row} (h : RowDecryptable cipher key model row)
    (hupdates : ∀ item ∈ updates.secrets, item.1 ∈ encryptedFields model → opens cipher key item.2 = true) :
    RowDecryptable cipher key model (updates.apply row) := by
  refine RowDecryptable.of_opens fun field hfield => ?_
  simp only [Updates.apply, overwrite]
  cases hlookup : updates.secrets.lookup field with
  | none => exact h.opens hfield
  | some ciphertext =>
    obtain ⟨before, after, hitems, -⟩ := List.lookup_eq_some_iff.mp hlookup
    exact hupdates (field, ciphertext) (hitems ▸ by simp) hfield

theorem guardedUpdate_preserves {selects : Int → Row → Bool} {snapshots : List (Int × Row)} :
    Preserves cipher (guardedUpdate env model selects snapshots updates) := by
  intro db h
  simp only [guardedUpdate, wp_ite, wp_bind, wp_throw, wp_atomic, wp_pure]
  refine ⟨fun _ => h, fun hplain => ?_⟩
  have hrows : ∀ key row, RowDecryptable cipher key model row → RowDecryptable cipher key model (updates.apply row) :=
    fun key row hrow => apply_rowDecryptable hrow fun item hitem hfield =>
      absurd (List.any_eq_true.mpr ⟨item, hitem, by simpa using hfield⟩) hplain
  refine ⟨fun _ => wp_statement env (wp_write.mpr (h.update fun pk row hrow => ?_)) h,
    fun _ => ⟨fun _ => wp_statement env ?_ h, fun _ => h⟩⟩
  · split_ifs
    · exact hrows _ row hrow
    · exact hrow
  · refine wp_forM (fun _ db' => Decryptable cipher db') h (fun _ item _ _ db' h' => ?_) fun _ h' => h'
    rw [wp_bind]
    refine wp_statement env (wp_write.mpr (h'.update fun pk row hrow => ?_)) h
    split_ifs
    · exact hrows _ row hrow
    · exact hrow

theorem guardedBulkUpdate_preserves {objs : List (Int × Instance)} {fields : List String} :
    Preserves cipher (guardedBulkUpdate env model objs fields) := by
  intro db h
  simp only [guardedBulkUpdate, wp_ite, wp_bind, wp_throw, wp_atomic]
  refine ⟨fun _ => h, fun hplain => ?_⟩
  refine wp_forM (fun _ db' => Decryptable cipher db') h (fun _ obj _ _ db' h' => ?_) fun _ h' => h'
  rw [wp_bind]
  refine wp_statement env (wp_write.mpr (h'.update fun pk row hrow => ?_)) h
  split_ifs
  · refine onto_rowDecryptable hrow fun field hfield hwrites => absurd ?_ hplain
    rw [writes_some (List.mem_append_left _ hfield)] at hwrites
    exact List.any_eq_true.mpr ⟨field, hfield, hwrites⟩
  · exact hrow

variable {objs : List Created} {options : BulkOptions}

theorem guardedBulkCreate_preserves {permit : Option (List String)} :
    Preserves cipher (guardedBulkCreate env permit model objs options) := by
  intro db h
  simp only [guardedBulkCreate, wp_ite, wp_bind, wp_throw, wp_atomic]
  refine ⟨fun _ => h, fun hempty => ⟨fun _ => h, fun _ => ?_⟩⟩
  refine wp_forM (fun _ db' => Decryptable cipher db') h (fun done obj rest hobjs db' h' => ?_) fun _ h' => h'
  have hblank : ∀ field ∈ encryptedFields model, obj.inst.secrets field = "" := by
    intro field hfield
    by_contra hne
    refine hempty (Bool.or_eq_true_iff.mpr (.inl (List.any_eq_true.mpr ⟨obj, hobjs ▸ by simp, ?_⟩)))
    exact List.any_eq_true.mpr ⟨field, hfield, by simpa using hne⟩
  simp only [wp_bind, wp_ite, wp_read, wp_throw, wp_write]
  refine wp_statement env ⟨fun _ => ?_, fun _ => ⟨fun _ => h, fun _ => ?_⟩⟩ h
  · cases options.onConflict with
    | fail => exact wp_throw.mpr h
    | ignore => exact wp_pure.mpr h'
    | update =>
      refine wp_write.mpr (h'.update fun pk row hrow => ?_)
      split_ifs
      · exact onto_rowDecryptable hrow fun field hfield _ => by rw [hblank field hfield, opens_empty]
      · exact hrow
  · exact h'.insert fun field hfield hne => absurd (hblank field hfield) hne

theorem lockedRecoveryConflictBulkCreate_preserves :
    Preserves cipher (lockedRecoveryConflictBulkCreate env model objs options) := by
  intro db h
  simp only [lockedRecoveryConflictBulkCreate, wp_ite, wp_bind, wp_throw, wp_atomic]
  refine ⟨fun _ => h, fun _ => wp_statement env ?_ h⟩
  exact wp_mono (guardedBulkCreate_preserves db h) (fun _ _ h' => h') fun _ _ _ => h

theorem lockedEncryptedQuerysetUpdate_preserves {label : Statement} {selects : Int → Row → Bool} :
    Preserves cipher (lockedEncryptedQuerysetUpdate env cipher label model selects updates) := by
  intro db h
  refine wp_lockedEncryptedQuerysetUpdate env cipher (fun hopens => h.update fun pk row hrow => ?_) fun _ => h
  split_ifs
  · exact apply_rowDecryptable hrow fun item hitem _ => hopens item hitem
  · exact hrow

/-! ### The recoveries -/

theorem decryptable_of_rotated {oldKey newKey : String} {result : RotationResult}
    (h : Rotated cipher oldKey newKey db db' result) : Decryptable cipher db' := by
  intro model pk row' hrow' field hfield hne
  have hkey : db'.currentKey = strip newKey := by rw [Database.currentKey, h.settings, strip_strip]
  cases hrow : (db.tables model).get? pk with
  | none =>
    rw [h.absent model pk hrow] at hrow'
    cases hrow'
  | some row =>
    obtain ⟨row'', hrow'', -, hrewritten, hkept⟩ := h.rows model pk row hrow
    obtain rfl : row'' = row' := Option.some.inj (hrow''.symm.trans hrow')
    have hold : row.secrets field ≠ "" := fun hempty => hne (by rw [hkept field (.inr hempty), hempty])
    obtain ⟨plaintext, -, hdecrypts⟩ := hrewritten field hfield hold
    exact opens_iff.mpr ⟨plaintext, hkey ▸ hdecrypts⟩

theorem decryptable_of_reset {familyKeys : List String} (hdecryptable : Decryptable cipher db)
    (h : ResetExactly cipher familyKeys db db') : Decryptable cipher db' := by
  intro model pk row' hrow' field hfield hne
  have hkey : db'.currentKey = db.currentKey := by rw [Database.currentKey, h.settings]; rfl
  cases hrow : (db.tables model).get? pk with
  | none =>
    rw [h.absent model pk hrow] at hrow'
    cases hrow'
  | some row =>
    obtain ⟨row'', hrow'', hreset⟩ := h.rows model pk row hrow
    obtain rfl : row'' = row' := Option.some.inj (hrow''.symm.trans hrow')
    have hopens := RowDecryptable.opens (hdecryptable model pk row hrow) hfield
    rw [hkey, hreset.keptSecret field fun _ _ _ => hopens]
    exact hopens

/-! ### Bulk creation of the settings -/

/-- The stored row is given the columns of an instance, the key among them, and the guard does not see it. -/
def BulkOptions.hidesKey (options : BulkOptions) : Bool :=
  options.onConflict = .update && "encryption_key" ∈ options.updateFields && "encryption_key" ∉ options.seenFields

theorem wp_guardedSettingsBulkCreate {objs : List (Settings × Bool)} {value : Database → Unit → Prop}
    (hvalue : ∀ db', db'.tables = db.tables → db'.settings.encryptionKey =
      (if options.hidesKey && objs.any (·.2) then "" else db.settings.encryptionKey) → value db' ())
    (hraised : ∀ failure, raised db failure) :
    wp (guardedSettingsBulkCreate env objs options) db value raised := by
  simp only [guardedSettingsBulkCreate, wp_ite, wp_bind, wp_throw, wp_atomic]
  refine ⟨fun _ => hraised _, fun hguard => ?_⟩
  simp only [Bool.or_eq_true, decide_eq_true_eq, not_or, List.any_eq_true, not_exists, not_and, not_not] at hguard
  obtain ⟨hblank, hseen⟩ := hguard
  refine wp_forM (fun done db' => db'.tables = db.tables ∧ db'.settings.encryptionKey =
    if options.hidesKey && done.any (·.2) then "" else db.settings.encryptionKey) ⟨rfl, by simp⟩
    (fun done obj rest hobjs db' hdone => ?_) fun db' hdone => hvalue db' hdone.1 hdone.2
  simp only [wp_bind, wp_ite, wp_pure]
  refine wp_statement env ⟨fun hconflicts => ?_, fun hnew => ?_⟩ (hraised _)
  swap
  · have hany : (done ++ [obj]).any (·.2) = done.any (·.2) := by simp [List.any_append, hnew]
    rw [hany]
    exact hdone
  cases honConflict : options.onConflict with
  | fail => exact wp_throw.mpr (hraised _)
  | ignore => exact wp_pure.mpr (by simpa [BulkOptions.hidesKey, honConflict] using hdone)
  | update =>
    refine wp_write.mpr ⟨hdone.1, ?_⟩
    by_cases hkey : "encryption_key" ∈ options.updateFields
    · have hobj : obj.1.encryptionKey = "" := hblank obj (hobjs ▸ by simp)
      simp [Settings.onto, writes, BulkOptions.hidesKey, honConflict, hkey, hseen, hconflicts, hobj]
    · simpa [Settings.onto, writes, BulkOptions.hidesKey, hkey] using hdone.2

theorem not_decryptable_of_blank (hkey : db'.settings.encryptionKey = "") (htables : db'.tables = db.tables)
    (hpayloads : db.encryptedPayloadsExist = true) : ¬ Decryptable cipher db' := by
  have hfamily : ∃ family ∈ encryptedFieldFamilies, (db.rowsWithCiphertext family).isEmpty = false := by
    simp only [Database.encryptedPayloadsExist, Database.dormantCiphertextExists, Bool.or_eq_true,
      List.any_eq_true, Bool.not_eq_true'] at hpayloads
    rcases hpayloads with ⟨family, hfamily, hrows⟩ | ⟨family, hfamily, hrows⟩
    · exact ⟨family, (List.mem_filter.mp hfamily).1, hrows⟩
    · exact ⟨family, (List.mem_filter.mp hfamily).1, hrows⟩
  obtain ⟨family, hfamily, hrows⟩ := hfamily
  obtain ⟨⟨pk, row⟩, hitem⟩ := List.exists_mem_of_ne_nil (db.rowsWithCiphertext family) (by simpa using hrows)
  obtain ⟨hrow, field, hfield, hne⟩ := db.mem_rowsWithCiphertext.mp hitem
  intro hdecryptable
  have hopens := hdecryptable family.model pk row (htables ▸ hrow) field
    (mem_encryptedFields.mpr ⟨family, hfamily, rfl, hfield⟩) hne
  obtain ⟨plaintext, hplaintext⟩ := opens_iff.mp hopens
  rw [Database.currentKey, hkey, decrypt, if_neg hne] at hplaintext
  cases hplaintext

/-! ### Runs -/

inductive Write where
  | save (model : Model) (transition : Transition) (nextPk : Int) (inst : Instance)
      (updateFields : Option (List String))
  | update (model : Model) (selects : Int → Row → Bool) (snapshots : List (Int × Row)) (updates : Updates)
  | bulkUpdate (model : Model) (objs : List (Int × Instance)) (fields : List String)
  | bulkCreate (model : Model) (objs : List Created) (options : BulkOptions)
  | conflictBulkCreate (model : Model) (objs : List Created) (options : BulkOptions)
  | encryptedUpdate (model : Model) (selects : Int → Row → Bool) (updates : Updates)
  | settingsSave (inst : Settings) (saved : Bool) (updateFields : Option (List String))
  | settingsUpdate (encryptionKey : Option String) (columns : List (String × Value))
  | settingsBulkCreate (objs : List (Settings × Bool)) (options : BulkOptions)
  | rotate (oldKey newKey : String)
  | reset (familyKeys : List String) (confirmation : String)

def Write.run (env : Environment ν) (cipher : Cipher ν) : Write → Step Unit
  | .save model transition nextPk inst updateFields => guardedSave env cipher model transition nextPk inst updateFields
  | .update model selects snapshots updates => guardedUpdate env model selects snapshots updates
  | .bulkUpdate model objs fields => guardedBulkUpdate env model objs fields
  | .bulkCreate model objs options => guardedBulkCreate env none model objs options
  | .conflictBulkCreate model objs options => lockedRecoveryConflictBulkCreate env model objs options
  | .encryptedUpdate model selects updates =>
    lockedEncryptedQuerysetUpdate env cipher (.writeRows model) model selects updates
  | .settingsSave inst saved updateFields => Encryption.settingsSave env cipher inst saved updateFields
  | .settingsUpdate encryptionKey columns => guardedSettingsUpdate env encryptionKey columns
  | .settingsBulkCreate objs options => guardedSettingsBulkCreate env objs options
  | .rotate oldKey newKey => do
      let _ ← rotateEncryptionKey env cipher oldKey newKey
  | .reset familyKeys confirmation => do
      let _ ← resetEncryptedFamilies env cipher familyKeys confirmation

def runAll (cipher : Cipher ν) (db : Database) (writes : List (Environment ν × Write)) : Database :=
  writes.foldl (fun db write => (write.2.run write.1 cipher db).2) db

/-- A bulk creation of the settings that reaches the stored row with a key the guard does not see. -/
def Write.hidesKey : Write → Bool
  | .settingsBulkCreate objs options => options.hidesKey && objs.any (·.2)
  | _ => false

theorem Write.run_preserves {action : Write} (hseen : action.hidesKey = false) :
    Preserves cipher (action.run env cipher) := by
  intro db h
  cases action with
  | save => exact guardedSave_preserves db h
  | update => exact guardedUpdate_preserves db h
  | bulkUpdate => exact guardedBulkUpdate_preserves db h
  | bulkCreate => exact guardedBulkCreate_preserves db h
  | conflictBulkCreate => exact lockedRecoveryConflictBulkCreate_preserves db h
  | encryptedUpdate => exact lockedEncryptedQuerysetUpdate_preserves db h
  | settingsSave => exact wp_settingsSave (fun hwritten => hwritten.decryptable h) fun _ => h
  | settingsUpdate => exact guardedSettingsUpdate_preserves db h
  | settingsBulkCreate objs options =>
    refine wp_guardedSettingsBulkCreate (fun db' htables hkey => h.of_key htables (congrArg strip ?_)) fun _ => h
    rw [hkey, if_neg (by simpa [hidesKey] using hseen)]
  | rotate =>
    rw [Write.run, wp_bind]
    exact wp_rotateEncryptionKey (fun _ _ h' => wp_pure.mpr (decryptable_of_rotated h')) fun _ => h
  | reset =>
    rw [Write.run, wp_bind]
    exact wp_resetEncryptedFamilies (fun _ _ _ h' => wp_pure.mpr (decryptable_of_reset h h')) fun _ => h

theorem Preserves.decryptable {α : Type} {action : Step α} (h : Preserves cipher action)
    (hdecryptable : Decryptable cipher db) : Decryptable cipher (action db).2 := Keeps.run h hdecryptable

/-- The write goes through, under stored ciphertext, with a blank key that the guard did not see. -/
def BlanksKey (cipher : Cipher ν) (db : Database) (write : Environment ν × Write) : Prop :=
  write.2.hidesKey = true ∧ (write.2.run write.1 cipher db).1.isOk = true ∧ db.encryptedPayloadsExist = true

theorem run_decryptable_iff (write : Environment ν × Write) (hdecryptable : Decryptable cipher db) :
    Decryptable cipher (write.2.run write.1 cipher db).2 ↔ ¬ BlanksKey cipher db write := by
  obtain ⟨env, action⟩ := write
  cases hhides : action.hidesKey with
  | false => simp [BlanksKey, hhides, (Write.run_preserves hhides).decryptable hdecryptable]
  | true =>
    cases action with
    | settingsBulkCreate objs options =>
      have hspec := @wp_guardedSettingsBulkCreate _ env db (fun db' _ => db' = db) options objs
        (fun db' _ => db'.tables = db.tables ∧ db'.settings.encryptionKey = "")
        (fun db' htables hkey => ⟨htables, hkey.trans (if_pos hhides)⟩) fun _ => rfl
      unfold wp at hspec
      simp only [BlanksKey, hhides, true_and, Write.run]
      generalize guardedSettingsBulkCreate env objs options db = outcome at hspec ⊢
      obtain ⟨result, db'⟩ := outcome
      cases result with
      | error failure =>
        subst hspec
        simp [Except.isOk, Except.toBool, hdecryptable]
      | ok value =>
        simp only [Except.isOk, Except.toBool, true_and]
        cases hpayloads : db.encryptedPayloadsExist with
        | true => simpa using not_decryptable_of_blank hspec.2 hspec.1 hpayloads
        | false => simpa using decryptable_of_no_payloads hspec.1 hpayloads
    | _ => cases hhides

theorem runAll_take_succ {writes : List (Environment ν × Write)} {k : Nat} {write : Environment ν × Write}
    (hwrite : writes[k]? = some write) : runAll cipher db (writes.take (k + 1))
      = (write.2.run write.1 cipher (runAll cipher db (writes.take k))).2 := by
  rw [List.take_add_one, hwrite, runAll, List.foldl_append]
  rfl

def Environment.calm : Environment Unit where
  fails _ := false
  postgresql := true
  dormantSchema := true
  nonce _ _ _ := ()
  lower := id
  targetFingerprint _ _ := none
  attestation _ := none

def firstKey : String := "AAAAAAAAAAAAAAAAAAAAAAAAAAAAAAAA============"

def secondKey : String := "BBBBBBBBBBBBBBBBBBBBBBBBBBBBBBBB============"

def oneEndpoint : Database where
  settings := ⟨1, firstKey, fun _ => .null⟩
  tables
    | .proxmoxEndpoint => Dict.ofDefaults [(7, ⟨fun field =>
      if field = "password_enc" then "#AAAAAAAAAAAAAAAAAAAAAAAAAAAAAAAAhunter2" else "",
      fun name => if name = "enabled" then .flag true else .text ""⟩)]
    | _ => Dict.ofDefaults []
  installed := false
  events := []

theorem oneEndpoint_decryptable : Decryptable Cipher.transparent oneEndpoint := by
  intro model pk row hrow field hfield _
  have hopens : ∀ item ∈ (oneEndpoint.tables model).items, ∀ field ∈ encryptedFields model,
      opens Cipher.transparent oneEndpoint.currentKey (item.2.secrets field) = true := by
    cases model <;> decide +kernel
  exact hopens (pk, row) ((Dict.mem_items_iff_get? _ _ _).mpr hrow) field hfield

def blankingCreate : Write :=
  .settingsBulkCreate [(⟨1, "", fun _ => .null⟩, true)] ⟨.update, ["encryption_key"], []⟩

def seenWrites : List (Environment Unit × Write) :=
  [(.calm, .rotate firstKey secondKey), (.calm, .settingsBulkCreate [(⟨1, "", fun _ => .null⟩, true)]
    ⟨.update, ["encryption_key"], ["update_fields"]⟩)]

end Proxbox.Encryption
