import Proxbox.Encryption.Rotation
/-!
# Destructive reset

`reset_encrypted_families`, for ciphertext whose key is lost. In the rows of the selected families it blanks
the values that do not decrypt under the stored key and, in the same row, the trust columns and operational
values of the family, and touches nothing else.
-/

namespace Proxbox.Encryption

open Python Transaction

variable {ν : Type} (env : Environment ν) (cipher : Cipher ν)

def resetConfirmationPhrase : String := "RESET PROXBOX ENCRYPTED SECRETS"

def resetRejected (message : String) : Failure := .recovery .destructiveResetRejected message

def familyByKey (key : String) : Option EncryptedFieldFamily := encryptedFieldFamilies.find? (·.key = key)

def undecryptableFields (key : String) (family : EncryptedFieldFamily) (row : Row) : List String :=
  family.encryptedFields.filter fun field => row.secrets field ≠ "" && !opens cipher key (row.secrets field)

def EncryptedFieldFamily.resetColumns (family : EncryptedFieldFamily) : List (String × Value) :=
  family.trustFields.map (fun name => (name, if nullable family.model name then .null else .text ""))
    ++ family.operationalResetValues

def clearValues (key : String) (family : EncryptedFieldFamily) (row : Row) : Updates :=
  ⟨(undecryptableFields cipher key family row).map (·, ""), family.resetColumns⟩

structure ResetTally where
  matchedRows : List (Model × Int)
  ciphertextValuesReset : Nat
  resetFamilies : List String

def resetRow (key : String) (family : EncryptedFieldFamily) (tally : ResetTally) (item : Int × Row) :
    Step ResetTally := do
  let fields := undecryptableFields cipher key family item.2
  if fields = [] then return tally
  lockedEncryptedQuerysetUpdate env cipher (.writeRow family.model item.1) family.model
    (fun pk _ => pk = item.1) (clearValues cipher key family item.2)
  return { tally with
    matchedRows := tally.matchedRows.insert (family.model, item.1)
    ciphertextValuesReset := tally.ciphertextValuesReset + fields.length }

def resetFamily (key : String) (tally : ResetTally) (family : EncryptedFieldFamily) : Step ResetTally := do
  statement env (.rows family.key)
  let db ← read
  let tally ← (db.rowsWithCiphertext family).foldlM (resetRow env cipher key family) tally
  return { tally with resetFamilies := tally.resetFamilies ++ [family.key] }

structure ResetResult where
  familiesReset : List String
  rowsMatched : Nat

/-- `tuple(dict.fromkeys(str(key) for key in family_keys if key))`. -/
def selectedKeys (familyKeys : List String) : List String :=
  (Dict.ofDefaults ((familyKeys.filter (· ≠ "")).map (·, ()))).keys

def resetAll (selected : List String) : Step ResetResult := do
  statement env .settings
  let db ← read
  let configuredKey := db.currentKey
  let families ← lockEncryptedFieldTables env
  let tally ← ((selected.filterMap familyByKey).filter (· ∈ families)).foldlM
    (resetFamily env cipher configuredKey) ⟨[], 0, []⟩
  statement env .record
  write fun db => { db with events := db.events ++
    [⟨.reset, tally.resetFamilies, tally.matchedRows.length, tally.ciphertextValuesReset⟩] }
  return ⟨tally.resetFamilies, tally.matchedRows.length⟩

def resetEncryptedFamilies (familyKeys : List String) (confirmation : String) : Step ResetResult := do
  let selected := selectedKeys familyKeys
  if selected = [] ∨ selected.any (familyByKey · |>.isNone) then
    throw (resetRejected "Select at least one recognized encrypted field family.")
  if confirmation ≠ resetConfirmationPhrase then
    throw (resetRejected ("Type the exact confirmation phrase: " ++ resetConfirmationPhrase))
  orConfigurationError ("Encrypted-secret reset could not access every selected database table. "
      ++ "No encrypted values or trust state were changed.")
    (atomic (resetAll env cipher selected))

/-! ### What a reset leaves behind -/

theorem resetColumns_agree : ∀ first ∈ encryptedFieldFamilies, ∀ second ∈ encryptedFieldFamilies,
    first.model = second.model → ∀ item ∈ first.resetColumns, ∀ item' ∈ second.resetColumns,
    item.1 = item'.1 → item.2 = item'.2 := by
  decide +kernel

theorem family_eq_of_key : ∀ first ∈ encryptedFieldFamilies, ∀ second ∈ encryptedFieldFamilies,
    first.key = second.key → first = second := by
  decide +kernel

section Exact

variable {cipher} (key : String)

def Undecryptable (cipher : Cipher ν) (key : String) (family : EncryptedFieldFamily) (row : Row) : Prop :=
  ∃ field ∈ family.encryptedFields, opens cipher key (row.secrets field) = false

/-- `row'` is `row` with the given families reset. -/
structure RowReset (cipher : Cipher ν) (key : String) (families : EncryptedFieldFamily → Prop) (row row' : Row) :
    Prop where
  cleared : ∀ family, families family → ∀ field ∈ family.encryptedFields,
    opens cipher key (row.secrets field) = false → row'.secrets field = ""
  keptSecret : ∀ field, (∀ family, families family → field ∈ family.encryptedFields →
    opens cipher key (row.secrets field) = true) → row'.secrets field = row.secrets field
  reset : ∀ family, families family → Undecryptable cipher key family row →
    ∀ item ∈ family.resetColumns, row'.columns item.1 = item.2
  keptColumn : ∀ name, (∀ family, families family → Undecryptable cipher key family row →
    name ∉ family.resetColumns.map Prod.fst) → row'.columns name = row.columns name

variable {key}

variable {families : EncryptedFieldFamily → Prop}

theorem RowReset.undecryptable_iff {row row' : Row}
    (h : RowReset cipher key families row row') (family : EncryptedFieldFamily)
    (hdisjoint : ∀ first, families first → ∀ field ∈ family.encryptedFields, field ∉ first.encryptedFields) :
    (∀ field ∈ family.encryptedFields, row'.secrets field = row.secrets field) ∧
      (Undecryptable cipher key family row' ↔ Undecryptable cipher key family row) := by
  have hsame : ∀ field ∈ family.encryptedFields, row'.secrets field = row.secrets field := fun field hfield =>
    h.keptSecret field fun first hfirst hmem => absurd hmem (hdisjoint first hfirst field hfield)
  refine ⟨hsame, ?_⟩
  constructor
  · rintro ⟨field, hfield, hopens⟩
    exact ⟨field, hfield, hsame field hfield ▸ hopens⟩
  · rintro ⟨field, hfield, hopens⟩
    exact ⟨field, hfield, (hsame field hfield).symm ▸ hopens⟩

theorem RowReset.trans {first second : EncryptedFieldFamily → Prop} {row row' row'' : Row}
    (hfirst : RowReset cipher key first row row') (hsecond : RowReset cipher key second row' row'')
    (hdisjoint : ∀ family family', first family → second family' →
      ∀ field ∈ family'.encryptedFields, field ∉ family.encryptedFields)
    (hagree : ∀ family family', first family → second family' → ∀ item ∈ family.resetColumns,
      ∀ item' ∈ family'.resetColumns, item.1 = item'.1 → item.2 = item'.2) :
    RowReset cipher key (fun family => first family ∨ second family) row row'' := by
  have hsame {family} (hfamily : second family) := hfirst.undecryptable_iff family
    fun family' hfamily' => hdisjoint family' family hfamily' hfamily
  refine ⟨fun family hfamily field hfield hopens => ?_, fun field hkept => ?_,
    fun family hfamily hundecryptable item hitem => ?_, fun name hkept => ?_⟩
  · rcases hfamily with hfamily | hfamily
    · have hempty := hfirst.cleared family hfamily field hfield hopens
      rw [hsecond.keptSecret field fun _ _ _ => by rw [hempty]; rfl, hempty]
    · exact hsecond.cleared family hfamily field hfield ((hsame hfamily).1 field hfield ▸ hopens)
  · have hrow' := hfirst.keptSecret field fun family hfamily => hkept family (.inl hfamily)
    rw [hsecond.keptSecret field fun family hfamily hmem => hrow' ▸ hkept family (.inr hfamily) hmem, hrow']
  · rcases hfamily with hfamily | hfamily
    · have hvalue := hfirst.reset family hfamily hundecryptable item hitem
      -- a later family either leaves the column or gives it the same value
      by_cases hagain : ∃ family', second family' ∧ Undecryptable cipher key family' row' ∧
          item.1 ∈ family'.resetColumns.map Prod.fst
      · obtain ⟨family', hfamily', hundecryptable', hmem⟩ := hagain
        obtain ⟨item', hitem', hname⟩ := List.mem_map.mp hmem
        rw [hagree family family' hfamily hfamily' item hitem item' hitem' hname.symm, ← hname]
        exact hsecond.reset family' hfamily' hundecryptable' item' hitem'
      · push Not at hagain
        rw [hsecond.keptColumn item.1 hagain, hvalue]
    · exact hsecond.reset family hfamily ((hsame hfamily).2.mpr hundecryptable) item hitem
  · have hrow' := hfirst.keptColumn name fun family hfamily => hkept family (.inl hfamily)
    rw [hsecond.keptColumn name fun family hfamily hundecryptable =>
      hkept family (.inr hfamily) ((hsame hfamily).2.mp hundecryptable), hrow']

theorem lookup_of_agree {α : Type} {items : List (String × α)} {item : String × α} (hmem : item ∈ items)
    (hagree : ∀ other ∈ items, item.1 = other.1 → item.2 = other.2) : items.lookup item.1 = some item.2 := by
  induction items with
  | nil => cases hmem
  | cons head rest ih =>
    obtain ⟨name, value⟩ := head
    rw [Dict.lookup_cons_eq_ite]
    split_ifs with hname
    · rw [hagree _ List.mem_cons_self hname]
    · rcases List.mem_cons.mp hmem with rfl | hmem
      · exact absurd rfl hname
      · exact ih hmem fun other hother => hagree other (List.mem_cons_of_mem _ hother)

theorem lookup_of_not_mem {α : Type} {items : List (String × α)} {name : String} (h : name ∉ items.map Prod.fst) :
    items.lookup name = none := by
  rw [List.lookup_eq_none_iff]
  intro item hitem
  rw [bne_iff_ne]
  rintro rfl
  exact h (List.mem_map_of_mem hitem)

theorem mem_undecryptableFields {family : EncryptedFieldFamily} {row : Row} {field : String} :
    field ∈ undecryptableFields cipher key family row ↔
      field ∈ family.encryptedFields ∧ opens cipher key (row.secrets field) = false := by
  simp only [undecryptableFields, List.mem_filter, Bool.and_eq_true, decide_eq_true_eq, Bool.not_eq_true']
  refine and_congr_right fun _ => ⟨fun h => h.2, fun h => ⟨fun hempty => ?_, h⟩⟩
  rw [hempty, opens_empty] at h
  cases h

theorem rowReset_clearValues {family : EncryptedFieldFamily} (hfamily : family ∈ encryptedFieldFamilies) {row : Row}
    (hundecryptable : Undecryptable cipher key family row) :
    RowReset cipher key (· = family) row ((clearValues cipher key family row).apply row) := by
  have hsecret (field : String) : ((undecryptableFields cipher key family row).map (·, "")).lookup field
      = if field ∈ undecryptableFields cipher key family row then some "" else none := by
    split_ifs with hmem
    · have hitem : (field, "") ∈ (undecryptableFields cipher key family row).map (·, "") :=
        List.mem_map.mpr ⟨field, hmem, rfl⟩
      exact lookup_of_agree hitem (by simp)
    · exact lookup_of_not_mem (by simpa [Function.comp_def] using hmem)
  refine ⟨?_, fun field hkept => ?_, ?_, fun name hkept => ?_⟩
  · rintro _ rfl field hfield hopens
    simp [clearValues, Updates.apply, overwrite, hsecret, mem_undecryptableFields.mpr ⟨hfield, hopens⟩]
  · have hnot : field ∉ undecryptableFields cipher key family row := fun hmem => by
      obtain ⟨hfield, hopens⟩ := mem_undecryptableFields.mp hmem
      rw [hkept family rfl hfield] at hopens
      cases hopens
    simp [clearValues, Updates.apply, overwrite, hsecret, hnot]
  · rintro _ rfl - item hitem
    have hlookup := lookup_of_agree hitem fun other hother hname =>
      resetColumns_agree _ hfamily _ hfamily rfl item hitem other hother hname
    simp [clearValues, Updates.apply, overwrite, hlookup]
  · simp [clearValues, Updates.apply, overwrite, lookup_of_not_mem (hkept family rfl hundecryptable)]

theorem rowReset_of_opens {row : Row} (hopens : ∀ family, families family → ∀ field ∈ family.encryptedFields,
      opens cipher key (row.secrets field) = true) : RowReset cipher key families row row := by
  refine ⟨fun family hfamily field hfield hfalse => ?_, fun _ _ => rfl, ?_, fun _ _ => rfl⟩
  · rw [hopens family hfamily field hfield] at hfalse
    cases hfalse
  · rintro family hfamily ⟨field, hfield, hfalse⟩
    rw [hopens family hfamily field hfield] at hfalse
    cases hfalse

end Exact

section Loops

variable {env cipher} {key : String} {family : EncryptedFieldFamily}

variable {tally : ResetTally}

theorem resetRow_resets {db : Database} {item : Int × Row}
    (hfamily : family ∈ encryptedFieldFamilies) (hrow : (db.tables family.model).get? item.1 = some item.2) :
    wp (resetRow env cipher key family tally item) db
      (fun db' _ => RowByRow (OneRow family.model item.1 (RowReset cipher key (· = family))) db db')
      fun _ _ => True := by
  simp only [resetRow, wp_bind, wp_ite, wp_pure]
  refine ⟨fun hnone => ?_, fun hsome => ?_⟩
  · have hkept : RowReset cipher key (· = family) item.2 (id item.2) := by
      refine rowReset_of_opens ?_
      rintro _ rfl field hfield
      rw [← Bool.not_eq_false]
      intro hfalse
      have hmem := mem_undecryptableFields.mpr ⟨hfield, hfalse⟩
      rw [hnone] at hmem
      cases hmem
    simpa [Database.update_id] using oneRow_update id hrow hkept
  · refine wp_lockedEncryptedQuerysetUpdate env cipher (fun _ => ?_) fun _ => trivial
    obtain ⟨field, hmem⟩ := List.exists_mem_of_ne_nil _ hsome
    simpa using oneRow_update (clearValues cipher key family item.2).apply hrow
      (rowReset_clearValues hfamily ⟨field, mem_undecryptableFields.mp hmem⟩)

theorem resetFamily_resets (hfamily : family ∈ encryptedFieldFamilies) (db : Database) :
    wp (resetFamily env cipher key tally family) db
      (fun db' _ => RowByRow (fun model _ => RowReset cipher key fun other => other.model = model ∧ other = family) db db')
      fun _ _ => True := by
  simp only [resetFamily, wp_bind, wp_read, wp_pure]
  refine wp_statement env (wp_mono (wp_rowsWithCiphertext (fun _ => RowReset cipher key (· = family))
    fun db' acc item => resetRow_resets hfamily) ?_ fun _ _ h => h) trivial
  refine fun db' _ h => h.mono fun model pk row row' _ hrow => ?_
  split_ifs at hrow with hselected
  · obtain ⟨rfl, -⟩ := hselected
    have hfamilies : (fun other => other.model = family.model ∧ other = family) = (· = family) :=
      funext fun other => propext ⟨fun h => h.2, fun h => ⟨by rw [h], h⟩⟩
    rwa [hfamilies]
  · subst hrow
    refine rowReset_of_opens ?_
    rintro _ ⟨rfl, rfl⟩ field hfield
    have hempty : row'.secrets field = "" := by
      by_contra hne
      exact hselected ⟨rfl, List.any_eq_true.mpr ⟨field, hfield, by simpa using hne⟩⟩
    rw [hempty, opens_empty]

theorem resetFamilies_reset (db : Database) (families : List EncryptedFieldFamily)
    (hnodup : families.Nodup) (hfamilies : ∀ family ∈ families, family ∈ encryptedFieldFamilies) :
    wp (families.foldlM (resetFamily env cipher key) tally) db
      (fun db' _ => RowByRow (fun model _ => RowReset cipher key fun family =>
        family.model = model ∧ family ∈ families) db db')
      fun _ _ => True := by
  refine wp_foldlM (fun done db' _ => RowByRow (fun model _ => RowReset cipher key fun family =>
    family.model = model ∧ family ∈ done) db db')
    (RowByRow.refl db fun _ _ _ => rowReset_of_opens (by simp)) ?_ fun _ _ h => h
  rintro done family rest hsplit db' tally hdone
  have hfirst : ∀ other ∈ done, other ∈ encryptedFieldFamilies ∧ other ≠ family := by
    intro other hother
    refine ⟨hfamilies other (hsplit ▸ List.mem_append_left _ hother), ?_⟩
    rw [hsplit] at hnodup
    exact (List.nodup_append.mp hnodup).2.2 _ hother _ List.mem_cons_self
  have hmem : family ∈ encryptedFieldFamilies :=
    hfamilies family (hsplit ▸ List.mem_append_right _ List.mem_cons_self)
  refine wp_mono (resetFamily_resets hmem db') (fun db'' _ hfamily => ?_) fun _ _ _ => trivial
  refine hdone.trans hfamily fun model pk row row' row'' hrow hrow' => ?_
  have hboth := hrow.trans hrow' ?_ ?_
  · simpa only [List.mem_append, List.mem_singleton, and_or_left] using hboth
  · rintro first _ ⟨rfl, hdone⟩ ⟨hmodel, rfl⟩
    exact families_disjoint _ hmem first (hfirst first hdone).1 (hfirst first hdone).2.symm hmodel
  · rintro first _ ⟨rfl, hdone⟩ ⟨hmodel, rfl⟩
    exact resetColumns_agree first (hfirst first hdone).1 _ hmem hmodel.symm

end Loops

/-! ### The reset as a whole -/

def RowDecryptable (key : String) (model : Model) (row : Row) : Prop :=
  ∀ field ∈ encryptedFields model, row.secrets field ≠ "" → opens cipher key (row.secrets field) = true

/-- No stored ciphertext of a registered field is undecryptable. -/
def Decryptable (db : Database) : Prop :=
  ∀ model pk row, (db.tables model).get? pk = some row → RowDecryptable cipher db.currentKey model row

/-- What a reset of the given families that succeeds has done. -/
structure ResetExactly (familyKeys : List String) (db db' : Database) : Prop where
  settings : db'.settings = db.settings
  installed : db'.installed = db.installed
  absent : ∀ model pk, (db.tables model).get? pk = none → (db'.tables model).get? pk = none
  rows : ∀ model pk row, (db.tables model).get? pk = some row → ∃ row', (db'.tables model).get? pk = some row' ∧
    RowReset cipher db.currentKey
      (fun family => family.model = model ∧ family ∈ db.available ∧ family.key ∈ familyKeys) row row'

theorem mem_selectedKeys {familyKeys : List String} {key : String} :
    key ∈ selectedKeys familyKeys ↔ key ∈ familyKeys ∧ key ≠ "" := by
  rw [selectedKeys, ← Dict.get?_isSome_iff]
  simp only [← Dict.mem_items_iff_get?, Dict.mem_items_ofDefaults]
  constructor
  · rintro ⟨value, hlookup⟩
    by_contra hnot
    rw [lookup_of_not_mem (by simpa [Function.comp_def] using hnot)] at hlookup
    cases hlookup
  · intro hmem
    have hitem : (key, ()) ∈ (familyKeys.filter (· ≠ "")).map (·, ()) :=
      List.mem_map.mpr ⟨key, by simpa using hmem, rfl⟩
    exact ⟨(), lookup_of_agree hitem fun _ _ _ => rfl⟩

theorem familyByKey_eq_some {key : String} {family : EncryptedFieldFamily} :
    familyByKey key = some family ↔ family ∈ encryptedFieldFamilies ∧ family.key = key := by
  constructor
  · intro h
    exact ⟨List.mem_of_find?_eq_some h, by simpa using List.find?_some h⟩
  · rintro ⟨hmem, rfl⟩
    cases hfind : familyByKey family.key with
    | none => simpa using List.find?_eq_none.mp hfind family hmem
    | some found =>
      rw [family_eq_of_key found (List.mem_of_find?_eq_some hfind) family hmem (by simpa using List.find?_some hfind)]

theorem familyKey_ne_empty : ∀ family ∈ encryptedFieldFamilies, family.key ≠ "" := by decide +kernel

section Whole

variable {env cipher} {db : Database} {familyKeys : List String}

theorem selectedFamilies_nodup (db : Database) (familyKeys : List String) :
    (((selectedKeys familyKeys).filterMap familyByKey).filter (· ∈ db.available)).Nodup := by
  have hkeys : (selectedKeys familyKeys).Nodup := Dict.nodup _
  refine List.Nodup.filter _ (hkeys.filterMap fun key key' family h h' => ?_)
  rw [← (familyByKey_eq_some.mp h).2, ← (familyByKey_eq_some.mp h').2]

theorem mem_selectedFamilies {family : EncryptedFieldFamily} :
    family ∈ ((selectedKeys familyKeys).filterMap familyByKey).filter (· ∈ db.available)
      ↔ family ∈ db.available ∧ family.key ∈ familyKeys := by
  simp only [List.mem_filter, List.mem_filterMap, familyByKey_eq_some, mem_selectedKeys, decide_eq_true_eq]
  constructor
  · rintro ⟨⟨key, ⟨hkey, -⟩, -, rfl⟩, havailable⟩
    exact ⟨havailable, hkey⟩
  · rintro ⟨havailable, hkey⟩
    have hfamily := (db.mem_available.mp havailable).1
    exact ⟨⟨family.key, ⟨hkey, familyKey_ne_empty family hfamily⟩, hfamily, rfl⟩, havailable⟩

theorem resetAll_resets :
    wp (resetAll env cipher (selectedKeys familyKeys)) db
      (fun db' _ => db.dormantCiphertextExists = false ∧ ResetExactly cipher familyKeys db db') fun _ _ => True := by
  simp only [resetAll, wp_bind, wp_read]
  refine wp_statement env (wp_lockEncryptedFieldTables env (fun hdormant => ?_) fun _ => trivial) trivial
  refine wp_mono (resetFamilies_reset db _ (selectedFamilies_nodup db familyKeys) fun family h =>
    (db.mem_available.mp (mem_selectedFamilies.mp h).1).1) (fun db' tally h => ?_) fun _ _ _ => trivial
  refine wp_statement env (wp_write.mpr (wp_pure.mpr ⟨hdormant, h.settings, h.installed, h.absent, ?_⟩)) trivial
  simpa only [mem_selectedFamilies] using h.rows

theorem decryptable_of_resetExactly {db' : Database} (hdormant : db.dormantCiphertextExists = false)
    (h : ResetExactly cipher familyKeys db db') (hall : ∀ family ∈ encryptedFieldFamilies, family.key ∈ familyKeys) :
    Decryptable cipher db' := by
  intro model pk row' hrow' field hfield hne
  have hkey : db'.currentKey = db.currentKey := by rw [Database.currentKey, h.settings]; rfl
  rw [hkey]
  cases hrow : (db.tables model).get? pk with
  | none =>
    rw [h.absent model pk hrow] at hrow'
    cases hrow'
  | some row =>
    obtain ⟨row'', hrow'', hreset⟩ := h.rows model pk row hrow
    obtain rfl : row'' = row' := Option.some.inj (hrow''.symm.trans hrow')
    cases hopens : opens cipher db.currentKey (row.secrets field) with
    | true =>
      rw [hreset.keptSecret field fun _ _ _ => hopens]
      exact hopens
    | false =>
      have hne : row.secrets field ≠ "" := fun hempty => by rw [hempty, opens_empty] at hopens; cases hopens
      obtain ⟨family, hfamily, hmodel, hmem⟩ := (exists_available_iff hdormant hrow hne).mpr hfield
      have hselected := hall family (db.mem_available.mp hfamily).1
      rw [hreset.cleared family ⟨hmodel, hfamily, hselected⟩ field hmem hopens, opens_empty]

theorem wp_resetEncryptedFamilies {confirmation : String} {value : Database → ResetResult → Prop}
    {raised : Database → Failure → Prop}
    (hvalue : ∀ db' result, db.dormantCiphertextExists = false → ResetExactly cipher familyKeys db db' → value db' result)
    (hraised : ∀ failure, raised db failure) :
    wp (resetEncryptedFamilies env cipher familyKeys confirmation) db value raised := by
  simp only [resetEncryptedFamilies, wp_ite, wp_throw, wp_bind]
  refine ⟨fun _ => hraised _, fun _ => ⟨fun _ => hraised _, fun _ => wp_orConfigurationError ?_⟩⟩
  rw [wp_atomic]
  exact wp_mono resetAll_resets (fun db' result h => hvalue db' result h.1 h.2) fun _ _ _ => hraised

end Whole

/-! ### A reset that nothing disturbs -/

/-- No statement fails, the tables can be locked, and no unloaded companion owns ciphertext. -/
structure Undisturbed (env : Environment ν) (db : Database) : Prop where
  succeeds : ∀ label, env.fails label = false
  postgresql : env.postgresql = true
  schema : db.installed = true ∨ env.dormantSchema = true
  dormant : db.dormantCiphertextExists = false

section Returns

variable {env cipher} {db : Database} (hsucceeds : ∀ label, env.fails label = false)

include hsucceeds

theorem wp_statement_iff {label : Statement} {value : Database → Unit → Prop} {raised : Database → Failure → Prop} :
    wp (statement env label) db value raised ↔ value db () := by
  simp [statement, hsucceeds label]

theorem resetRow_returns {key : String} {family : EncryptedFieldFamily} {tally : ResetTally} {item : Int × Row}
    (hfamily : family ∈ encryptedFieldFamilies) :
    wp (resetRow env cipher key family tally item) db (fun _ _ => True) fun _ _ => False := by
  simp only [resetRow, lockedEncryptedQuerysetUpdate, wp_bind, wp_ite, wp_pure, wp_throw, wp_read, wp_write,
    wp_statement_iff hsucceeds]
  refine ⟨fun _ => trivial, fun hsome => ⟨fun hnone => ?_, fun _ => ⟨fun hstale => ?_, fun _ => trivial⟩⟩⟩
  swap
  · simp [clearValues] at hstale
  -- what is cleared is a registered field
  obtain ⟨field, hmem⟩ := List.exists_mem_of_ne_nil _ hsome
  have hfield : field ∈ encryptedFields family.model :=
    mem_encryptedFields.mpr ⟨family, hfamily, rfl, (mem_undecryptableFields.mp hmem).1⟩
  have hany : ((clearValues cipher key family item.2).secrets.any fun item =>
      item.1 ∈ encryptedFields family.model) = true :=
    List.any_eq_true.mpr ⟨(field, ""), List.mem_map.mpr ⟨field, hmem, rfl⟩, by simpa using hfield⟩
  simp [hany] at hnone

theorem resetFamily_returns {key : String} {family : EncryptedFieldFamily} {tally : ResetTally}
    (hfamily : family ∈ encryptedFieldFamilies) :
    wp (resetFamily env cipher key tally family) db (fun _ _ => True) fun _ _ => False := by
  simp only [resetFamily, wp_bind, wp_pure, wp_read, wp_statement_iff hsucceeds]
  exact wp_foldlM (fun _ _ _ => True) trivial (fun _ _ _ _ _ _ _ => resetRow_returns hsucceeds hfamily)
    fun _ _ _ => trivial

theorem resetAll_returns {familyKeys : List String} (hlocks : wp (lockEncryptedFieldTables env) db
      (fun _ families => families = db.available) fun _ _ => False) :
    wp (resetAll env cipher (selectedKeys familyKeys)) db (fun _ _ => True) fun _ _ => False := by
  simp only [resetAll, wp_bind, wp_pure, wp_read, wp_write, wp_statement_iff hsucceeds]
  refine wp_mono hlocks ?_ fun _ _ h => h
  rintro db' _ rfl
  refine wp_foldlM (fun _ _ _ => True) trivial (fun done family rest hsplit _ _ _ => ?_) fun _ _ _ => trivial
  refine resetFamily_returns hsucceeds (db.mem_available.mp (@mem_selectedFamilies db familyKeys family |>.mp ?_).1).1
  exact hsplit ▸ List.mem_append_right _ List.mem_cons_self

end Returns

theorem Undisturbed.locks {env : Environment ν} {db : Database} (h : Undisturbed env db) :
    wp (lockEncryptedFieldTables env) db (fun _ families => families = db.available) fun _ _ => False := by
  have hschema : (!db.installed && !env.dormantSchema) = false := by
    rcases h.schema with hinstalled | hschema
    · simp [hinstalled]
    · simp [hschema]
  simp only [lockEncryptedFieldTables, wp_bind, wp_ite, wp_throw, wp_pure, wp_read, h.postgresql, h.succeeds, h.dormant,
    hschema]
  simp

def KnownSelection (familyKeys : List String) : Prop :=
  (∃ key ∈ familyKeys, key ≠ "") ∧
    ∀ key ∈ familyKeys, key ≠ "" → ∃ family ∈ encryptedFieldFamilies, family.key = key

variable {env cipher} in
theorem resetEncryptedFamilies_returns {familyKeys : List String} {db : Database} (hundisturbed : Undisturbed env db)
    (hselection : KnownSelection familyKeys) :
    wp (resetEncryptedFamilies env cipher familyKeys resetConfirmationPhrase) db (fun _ _ => True) fun _ _ => False := by
  obtain ⟨⟨key, hkey⟩, hknown⟩ := hselection
  simp only [resetEncryptedFamilies, wp_ite, ne_eq, not_true_eq_false, false_implies, true_and, not_false_eq_true,
    forall_const]
  refine ⟨?_, fun _ => wp_orConfigurationError ?_⟩
  · rintro (hnone | hunknown)
    · have hmem := mem_selectedKeys.mpr hkey
      rw [hnone] at hmem
      cases hmem
    · obtain ⟨key, hmem, hfamily⟩ := List.any_eq_true.mp hunknown
      obtain ⟨hmem, hne⟩ := mem_selectedKeys.mp hmem
      obtain ⟨family, hfamily'⟩ := hknown key hmem hne
      rw [familyByKey_eq_some.mpr hfamily'] at hfamily
      cases hfamily
  · rw [wp_atomic]
    exact wp_mono (resetAll_returns hundisturbed.succeeds hundisturbed.locks) (fun _ _ h => h) fun _ _ h => h.elim

/-- A reset clears the undecryptable values of the selected families with the columns declared for their rows
and nothing else, or raises and leaves the database as it was. If nothing disturbs it, it returns. -/
theorem resetEncryptedFamilies_exact (familyKeys : List String) (confirmation : String) (db : Database) :
    wp (resetEncryptedFamilies env cipher familyKeys confirmation) db
      (fun db' _ => ResetExactly cipher familyKeys db db' ∧
        ((∀ family ∈ encryptedFieldFamilies, family.key ∈ familyKeys) → Decryptable cipher db'))
      (fun db' _ => db' = db) ∧
    (Undisturbed env db → KnownSelection familyKeys → confirmation = resetConfirmationPhrase →
      (resetEncryptedFamilies env cipher familyKeys confirmation db).1.isOk = true) := by
  refine ⟨wp_resetEncryptedFamilies (fun _ _ hdormant h => ⟨h, decryptable_of_resetExactly hdormant h⟩)
    fun _ => rfl, ?_⟩
  rintro hundisturbed hselection rfl
  exact isOk_iff_wp.mpr (resetEncryptedFamilies_returns hundisturbed hselection)

end Proxbox.Encryption
