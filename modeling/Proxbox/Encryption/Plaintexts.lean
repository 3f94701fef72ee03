import Proxbox.Encryption.Invariant
/-!
# What the readers of the tables see

A reader sees the columns of a row and the plaintexts of its ciphertexts under the stored key. Rotations, resets
and writes of the settings change keys and ciphertexts and are not seen, in whatever order they come and wherever
one fails. A reset that is repeated finds nothing left to clear.
-/

namespace Proxbox.Encryption

open Python Transaction

variable {ν : Type} {env : Environment ν} {cipher : Cipher ν} {db db' : Database} {model : Model}

structure PlainRow where
  columns : String → Value
  secrets : List (Except EncryptionError String)

def Row.plain (cipher : Cipher ν) (key : String) (model : Model) (row : Row) : PlainRow :=
  ⟨row.columns, (encryptedFields model).map fun field => decrypt cipher (row.secrets field) key⟩

/-- The rows as they are read with the stored key. -/
def Database.plain (cipher : Cipher ν) (db : Database) (model : Model) (pk : Int) : Option PlainRow :=
  ((db.tables model).get? pk).map (Row.plain cipher db.currentKey model)

/-- No token opens to different texts, whatever keys open it. -/
def Authentic (cipher : Cipher ν) : Prop :=
  ∀ ciphertext key key' plaintext plaintext', decrypt cipher ciphertext key = .ok plaintext →
    decrypt cipher ciphertext key' = .ok plaintext' → plaintext = plaintext'

/-! ### One operation -/

theorem Row.plain_congr {key key' : String} {row row' : Row} (hcolumns : row'.columns = row.columns)
    (hsecrets : ∀ field ∈ encryptedFields model,
      decrypt cipher (row'.secrets field) key' = decrypt cipher (row.secrets field) key) :
    row'.plain cipher key' model = row.plain cipher key model := by
  unfold Row.plain
  rw [hcolumns, List.map_congr_left hsecrets]

theorem Database.plain_congr
    (habsent : ∀ model pk, (db.tables model).get? pk = none → (db'.tables model).get? pk = none)
    (hrows : ∀ model pk row, (db.tables model).get? pk = some row → ∃ row', (db'.tables model).get? pk = some row' ∧
      row'.plain cipher db'.currentKey model = row.plain cipher db.currentKey model) :
    db'.plain cipher = db.plain cipher := by
  funext model pk
  unfold Database.plain
  cases hrow : (db.tables model).get? pk with
  | none => rw [habsent model pk hrow, Option.map_none, Option.map_none]
  | some row =>
    obtain ⟨row', hrow', hplain⟩ := hrows model pk row hrow
    rw [hrow', Option.map_some, Option.map_some, hplain]

variable (hauthentic : Authentic cipher) (hdecryptable : Decryptable cipher db)

include hauthentic in
theorem Authentic.decrypt_eq {ciphertext key key' : String} (hopens : opens cipher key ciphertext = true)
    (hopens' : opens cipher key' ciphertext = true) : decrypt cipher ciphertext key' = decrypt cipher ciphertext key := by
  obtain ⟨plaintext, hplaintext⟩ := opens_iff.mp hopens
  obtain ⟨plaintext', hplaintext'⟩ := opens_iff.mp hopens'
  rw [hplaintext, hplaintext', hauthentic _ _ _ _ _ hplaintext hplaintext']

include hauthentic hdecryptable in
theorem plain_of_rotated {oldKey newKey : String} {result : RotationResult}
    (h : Rotated cipher oldKey newKey db db' result) : db'.plain cipher = db.plain cipher := by
  have hkey : db'.currentKey = strip newKey := by rw [Database.currentKey, h.settings, strip_strip]
  refine Database.plain_congr h.absent fun model pk row hrow => ?_
  obtain ⟨row', hrow', hcolumns, hrewritten, hkept⟩ := h.rows model pk row hrow
  refine ⟨row', hrow', Row.plain_congr hcolumns fun field hfield => ?_⟩
  by_cases hempty : row.secrets field = ""
  · rw [hkept field (.inr hempty), hempty, decrypt_empty, decrypt_empty]
  · obtain ⟨plaintext, hold, hnew⟩ := hrewritten field hfield hempty
    have hstored := RowDecryptable.opens (hdecryptable model pk row hrow) hfield
    rw [hkey, hnew, ← hold]
    exact hauthentic.decrypt_eq hstored (opens_iff.mpr ⟨plaintext, hold⟩)

include hdecryptable in
theorem plain_of_reset {familyKeys : List String} (h : ResetExactly cipher familyKeys db db') :
    db'.plain cipher = db.plain cipher := by
  have hkey : db'.currentKey = db.currentKey := by rw [Database.currentKey, h.settings]; rfl
  refine Database.plain_congr h.absent fun model pk row hrow => ?_
  obtain ⟨row', hrow', hreset⟩ := h.rows model pk row hrow
  have hopens : ∀ family ∈ db.available, family.model = model → ∀ field ∈ family.encryptedFields,
      opens cipher db.currentKey (row.secrets field) = true := by
    intro family hfamily hmodel field hfield
    have hregistered : field ∈ encryptedFields model :=
      mem_encryptedFields.mpr ⟨family, (db.mem_available.mp hfamily).1, hmodel, hfield⟩
    exact RowDecryptable.opens (hdecryptable model pk row hrow) hregistered
  refine ⟨row', hrow', Row.plain_congr ?_ fun field _ => ?_⟩
  · funext name
    apply hreset.keptColumn
    intro family hfamily hundecryptable
    obtain ⟨field, hfield, hfalse⟩ := hundecryptable
    rw [hopens family hfamily.2.1 hfamily.1 field hfield] at hfalse
    cases hfalse
  · rw [hkey, hreset.keptSecret field fun family hfamily hfield => hopens family hfamily.2.1 hfamily.1 field hfield]

include hauthentic hdecryptable in
theorem plain_of_tables (htables : db'.tables = db.tables) (hdecryptable' : Decryptable cipher db') :
    db'.plain cipher = db.plain cipher := by
  refine Database.plain_congr (fun model pk hnone => htables ▸ hnone) fun model pk row hrow => ?_
  have hrow' : (db'.tables model).get? pk = some row := htables ▸ hrow
  refine ⟨row, hrow', Row.plain_congr rfl fun field hfield => ?_⟩
  exact hauthentic.decrypt_eq (RowDecryptable.opens (hdecryptable model pk row hrow) hfield)
    (RowDecryptable.opens (hdecryptable' model pk row hrow') hfield)

/-! ### Runs -/

def Write.managesKey : Write → Bool
  | .rotate _ _ | .reset _ _ | .settingsSave _ _ _ | .settingsUpdate _ _ => true
  | _ => false

theorem hidesKey_of_managesKey {action : Write} (hmanages : action.managesKey = true) : action.hidesKey = false := by
  cases action with
  | settingsBulkCreate => cases hmanages
  | _ => rfl

include hauthentic hdecryptable in
theorem Write.run_plain {action : Write} (hmanages : action.managesKey = true) :
    wp (action.run env cipher) db (fun db' _ => db'.plain cipher = db.plain cipher)
      fun db' _ => db'.plain cipher = db.plain cipher := by
  cases action with
  | rotate oldKey newKey =>
    rw [Write.run, wp_bind]
    exact wp_rotateEncryptionKey (fun _ _ h => wp_pure.mpr (plain_of_rotated hauthentic hdecryptable h)) fun _ => rfl
  | reset familyKeys confirmation =>
    rw [Write.run, wp_bind]
    exact wp_resetEncryptedFamilies (fun _ _ _ h => wp_pure.mpr (plain_of_reset hdecryptable h)) fun _ => rfl
  | settingsSave inst saved updateFields =>
    exact wp_settingsSave (fun hwritten => plain_of_tables hauthentic hdecryptable rfl (hwritten.decryptable hdecryptable))
      fun _ => rfl
  | settingsUpdate encryptionKey columns =>
    simp only [Write.run, guardedSettingsUpdate, wp_bind, wp_ite, wp_throw]
    exact ⟨fun _ => trivial, fun _ => wp_statement env (wp_write.mpr rfl) rfl⟩
  | _ => cases hmanages

theorem fernet_length {key : String} {bytes : List UInt8} (h : fernet Cipher.transparent key = .ok bytes) :
    bytes.length = 32 := by
  obtain ⟨text, -, hbytes⟩ := bind_eq_ok.mp h
  split at hbytes
  · next decoded hdecoded =>
    obtain rfl := Except.ok.inj hbytes
    simp only [Cipher.transparent] at hdecoded
    split_ifs at hdecoded with hlength
    obtain rfl := Option.some.inj hdecoded
    rw [List.length_map, List.length_take, String.length_toList, hlength]
    rfl
  · cases hbytes

theorem transparent_authentic : Authentic Cipher.transparent := by
  -- all keys are of one length, so that the text begins at one place
  have hsuffix {ciphertext key plaintext : String} (hne : ciphertext ≠ "")
      (h : decrypt Cipher.transparent ciphertext key = .ok plaintext) :
      plaintext = String.ofList (ciphertext.toList.drop 33) := by
    rw [decrypt, if_neg hne] at h
    obtain ⟨bytes, hbytes, hplaintext⟩ := bind_eq_ok.mp h
    split at hplaintext
    · next text htext =>
      obtain rfl := Except.ok.inj hplaintext
      simp only [Cipher.transparent] at htext
      split_ifs at htext
      rw [← Option.some.inj htext, Cipher.keyMark, List.length_cons, List.length_map, fernet_length hbytes]
    · cases hplaintext
  intro ciphertext key key' plaintext plaintext' h h'
  by_cases hempty : ciphertext = ""
  · rw [hempty, decrypt_empty] at h h'
    rw [← Except.ok.inj h, ← Except.ok.inj h']
  · rw [hsuffix hempty h, hsuffix hempty h']

theorem RowReset.opens {key : String} {families : EncryptedFieldFamily → Prop} {row row' : Row}
    (h : RowReset cipher key families row row') {family : EncryptedFieldFamily} (hfamily : families family) {field : String}
    (hfield : field ∈ family.encryptedFields) : opens cipher key (row'.secrets field) = true := by
  cases hopens : Encryption.opens cipher key (row.secrets field) with
  | true =>
    rw [h.keptSecret field fun _ _ _ => hopens]
    exact hopens
  | false => rw [h.cleared family hfamily field hfield hopens, opens_empty]

theorem RowReset.again {key : String} {first second : EncryptedFieldFamily → Prop} {row row' row'' : Row}
    (h : RowReset cipher key first row row') (hagain : RowReset cipher key second row' row'')
    (hfewer : ∀ family, second family → first family) : row'' = row' := by
  have hsecrets : row''.secrets = row'.secrets := by
    funext field
    apply hagain.keptSecret
    intro family hfamily hfield
    exact h.opens (hfewer family hfamily) hfield
  have hcolumns : row''.columns = row'.columns := by
    funext name
    apply hagain.keptColumn
    intro family hfamily hundecryptable
    obtain ⟨field, hfield, hfalse⟩ := hundecryptable
    rw [h.opens (hfewer family hfamily) hfield] at hfalse
    cases hfalse
  exact congrArg₂ Row.mk hsecrets hcolumns

/-- After a reset, a reset of the same families or of some of them leaves every row as it is. -/
theorem resetEncryptedFamilies_again (env env' : Environment ν) (cipher : Cipher ν) (db : Database)
    (familyKeys : List String) (confirmation : String) :
    wp (resetEncryptedFamilies env cipher familyKeys confirmation) db
      (fun db' _ => ∀ again confirmation', again ⊆ familyKeys →
        wp (resetEncryptedFamilies env' cipher again confirmation') db'
          (fun db'' _ => ∀ model pk, (db''.tables model).get? pk = (db'.tables model).get? pk)
          fun db'' _ => db'' = db')
      fun db' _ => db' = db := by
  refine wp_resetEncryptedFamilies (fun db' _ _ hfirst again confirmation' hagain => ?_) fun _ => rfl
  refine wp_resetEncryptedFamilies (fun db'' _ _ hsecond model pk => ?_) fun _ => rfl
  have hkey : db'.currentKey = db.currentKey := by rw [Database.currentKey, hfirst.settings]; rfl
  cases hrow : (db.tables model).get? pk with
  | none =>
    have hnone := hfirst.absent model pk hrow
    rw [hnone, hsecond.absent model pk hnone]
  | some row =>
    obtain ⟨row', hrow', hreset⟩ := hfirst.rows model pk row hrow
    obtain ⟨row'', hrow'', hreset'⟩ := hsecond.rows model pk row' hrow'
    rw [hkey] at hreset'
    rw [hrow', hrow'', hreset.again hreset' fun family hfamily => ?_]
    obtain ⟨hmodel, havailable, hselected⟩ := hfamily
    rw [Database.available, hfirst.installed] at havailable
    exact ⟨hmodel, havailable, hagain hselected⟩

end Proxbox.Encryption
