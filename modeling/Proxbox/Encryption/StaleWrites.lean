import Proxbox.Encryption.Invariant
/-!
# Writes from before a recovery

An instance loaded before a reset or a rotation is saved after it. The guard of the save looks at ciphertexts
alone: a copy is refused that holds one which is neither the committed one nor a setter's, or which the stored key
does not open. A copy that passes is written whole, with the trust stamp and the operational flags it was loaded
with. A prepared update carries its snapshot of all recovery columns and is never late.
-/

namespace Proxbox.Encryption

open Python Transaction

variable {ν : Type} {env : Environment ν} {cipher : Cipher ν} {db : Database} {model : Model}

/-! ### Instances -/

def Instance.ofRow (pk : Int) (row : Row) : Instance := ⟨some pk, row.secrets, row.columns, [], [], some row, false⟩

/-- A secret is assigned through the setter of the model or through that of a companion, whose ciphertext is
tagged, or its field is written directly; or another column is. -/
inductive Edit where
  | assign (field ciphertext : String)
  | produce (field ciphertext : String)
  | direct (field ciphertext : String)
  | column (name : String) (value : Value)

def Instance.markForWrite (inst : Instance) (field : String) : Instance :=
  if (inst.expectedWrites.lookup field).isSome then inst
  else { inst with expectedWrites := inst.expectedWrites ++ [(field, inst.secrets field)] }

/-- `setattr` on a ciphertext; the tag belongs to the value and goes with it. -/
def Instance.setSecret (inst : Instance) (field ciphertext : String) (tagged : Bool) : Instance :=
  { inst with
    secrets := Function.update inst.secrets field ciphertext
    setterProduced := (if tagged then [field] else []) ++ inst.setterProduced.filter (· ≠ field) }

def Edit.apply (inst : Instance) : Edit → Instance
  | .assign field ciphertext => (inst.markForWrite field).setSecret field ciphertext false
  | .produce field ciphertext => (inst.markForWrite field).setSecret field ciphertext (ciphertext ≠ "")
  | .direct field ciphertext => inst.setSecret field ciphertext false
  | .column name value => { inst with columns := Function.update inst.columns name value }

def Instance.edited (pk : Int) (base : Row) (edits : List Edit) : Instance :=
  edits.foldl Edit.apply (.ofRow pk base)

/-- A write to the ciphertext that is not one of the model's own setter. -/
def Edit.bypasses (field : String) : Edit → Bool
  | .produce field' _ | .direct field' _ => field' = field
  | _ => false

/-- What an instance remembers of a ciphertext that only the model's own setter has written. -/
structure OwnSetter (base : Row) (field : String) (inst : Instance) : Prop where
  untagged : field ∉ inst.setterProduced
  expected : ∀ ciphertext, inst.expectedWrites.lookup field = some ciphertext → ciphertext = base.secrets field
  unmarked : inst.expectedWrites.lookup field = none → inst.secrets field = base.secrets field

section OwnSetter

variable {base : Row} {field : String} {inst : Instance}

theorem lookup_markForWrite (inst : Instance) (field field' : String) :
    (inst.markForWrite field').expectedWrites.lookup field =
      if field = field' then some ((inst.expectedWrites.lookup field).getD (inst.secrets field))
      else inst.expectedWrites.lookup field := by
  unfold Instance.markForWrite
  split_ifs with hmarked hfield hfield
  · subst hfield
    obtain ⟨ciphertext, hlookup⟩ := Option.isSome_iff_exists.mp hmarked
    rw [hlookup, Option.getD_some]
  · rfl
  · subst hfield
    rw [Option.not_isSome_iff_eq_none] at hmarked
    rw [Dict.lookup_append_singleton, hmarked]
    simp
  · rw [Dict.lookup_append_singleton]
    simp [hfield]

@[simp] theorem secrets_markForWrite (inst : Instance) (field : String) :
    (inst.markForWrite field).secrets = inst.secrets := by
  unfold Instance.markForWrite
  split_ifs <;> rfl

@[simp] theorem setterProduced_markForWrite (inst : Instance) (field : String) :
    (inst.markForWrite field).setterProduced = inst.setterProduced := by
  unfold Instance.markForWrite
  split_ifs <;> rfl

theorem OwnSetter.markForWrite (h : OwnSetter base field inst) (field' : String) :
    OwnSetter base field (inst.markForWrite field') := by
  refine ⟨by simpa using h.untagged, fun ciphertext hlookup => ?_, fun hlookup => ?_⟩
  · rw [lookup_markForWrite] at hlookup
    split_ifs at hlookup
    · obtain rfl := Option.some.inj hlookup
      -- the mark of an earlier assignment stands, else the value is still the loaded one
      cases hbefore : inst.expectedWrites.lookup field with
      | none => exact h.unmarked hbefore
      | some expected => exact h.expected expected hbefore
    · exact h.expected ciphertext hlookup
  · rw [lookup_markForWrite] at hlookup
    split_ifs at hlookup
    rw [secrets_markForWrite]
    exact h.unmarked hlookup

theorem OwnSetter.setSecret_of_ne (h : OwnSetter base field inst) {field' : String} (hne : field' ≠ field)
    (ciphertext : String) (tagged : Bool) : OwnSetter base field (inst.setSecret field' ciphertext tagged) := by
  refine ⟨?_, h.expected, fun hlookup => ?_⟩
  · cases tagged <;> simp [Instance.setSecret, h.untagged, hne.symm]
  · simpa [Instance.setSecret, Function.update_of_ne hne.symm] using h.unmarked hlookup

theorem OwnSetter.apply (h : OwnSetter base field inst) {edit : Edit} (hedit : edit.bypasses field = false) :
    OwnSetter base field (edit.apply inst) := by
  cases edit with
  | assign field' ciphertext =>
    by_cases hfield : field' = field
    · subst hfield
      have hmarked := h.markForWrite field'
      refine ⟨by simp [Edit.apply, Instance.setSecret, h.untagged], hmarked.expected, fun hlookup => ?_⟩
      have hsome : (inst.markForWrite field').expectedWrites.lookup field' = none := hlookup
      rw [lookup_markForWrite, if_pos rfl] at hsome
      cases hsome
    · exact (h.markForWrite field').setSecret_of_ne hfield _ _
  | produce field' ciphertext =>
    exact (h.markForWrite field').setSecret_of_ne (by simpa [Edit.bypasses] using hedit) _ _
  | direct field' ciphertext => exact h.setSecret_of_ne (by simpa [Edit.bypasses] using hedit) _ _
  | column name value => exact ⟨h.untagged, h.expected, h.unmarked⟩

theorem ownSetter_edited (pk : Int) {edits : List Edit} (hedits : ∀ edit ∈ edits, edit.bypasses field = false) :
    OwnSetter base field (.edited pk base edits) := by
  have hstart : OwnSetter base field (.ofRow pk base) := ⟨by simp [Instance.ofRow], nofun, fun _ => rfl⟩
  unfold Instance.edited
  generalize Instance.ofRow pk base = inst at hstart
  induction edits generalizing inst with
  | nil => exact hstart
  | cons edit rest ih =>
    exact ih (fun edit hedit => hedits edit (List.mem_cons_of_mem _ hedit)) _
      (hstart.apply (hedits edit List.mem_cons_self))

end OwnSetter

@[simp] theorem pk_apply (inst : Instance) (edit : Edit) : (edit.apply inst).pk = inst.pk := by
  cases edit <;> simp only [Edit.apply, Instance.setSecret, Instance.markForWrite] <;> split_ifs <;> rfl

@[simp] theorem loaded_apply (inst : Instance) (edit : Edit) : (edit.apply inst).loaded = inst.loaded := by
  cases edit <;> simp only [Edit.apply, Instance.setSecret, Instance.markForWrite] <;> split_ifs <;> rfl

theorem edited_kept (pk : Int) (base : Row) (edits : List Edit) :
    (Instance.edited pk base edits).pk = some pk ∧ (Instance.edited pk base edits).loaded = some base := by
  suffices h : ∀ inst : Instance, (edits.foldl Edit.apply inst).pk = inst.pk ∧
      (edits.foldl Edit.apply inst).loaded = inst.loaded from h _
  induction edits with
  | nil => exact fun _ => ⟨rfl, rfl⟩
  | cons edit rest ih => exact fun inst => by simpa using ih (edit.apply inst)

/-! ### The committed row stands -/

def KeepsCommitted (model : Model) (pk : Int) (committed : Row) (db : Database) : Prop :=
  ∃ row, (db.tables model).get? pk = some row ∧ recoveryFieldsKept model committed row = true

def Instance.setterWritten (inst : Instance) (field : String) : Bool :=
  field ∈ inst.setterProduced || (inst.expectedWrites.lookup field).isSome

/-- A ciphertext is the committed one or a setter's under the stored key, and the other recovery columns are as
committed. -/
def Unresurrected (cipher : Cipher ν) (model : Model) (pk : Int) (committed : Row) (inst : Instance) (db : Database) :
    Prop :=
  ∃ row, (db.tables model).get? pk = some row ∧
    (∀ field ∈ encryptedFields model, row.secrets field = committed.secrets field ∨
      inst.setterWritten field = true ∧ opens cipher db.currentKey (row.secrets field) = true) ∧
    ∀ name ∈ protectedFields model, row.columns name = committed.columns name

/-- The names `save_bound_endpoint` does not let an ordinary save write. -/
def boundNames : List String := ["netbox_cluster", "netbox_cluster_id", bindingField]

def Unbound (model : Model) (updateFields : Option (List String)) : Prop :=
  model = .proxmoxEndpoint → ∀ fields ∈ updateFields, ∀ name ∈ boundNames, name ∉ fields

/-- Every ciphertext passes the guard: it is the committed one or a setter's, and the stored key opens it. -/
def Accepted (cipher : Cipher ν) (db : Database) (model : Model) (committed : Row) (inst : Instance) : Prop :=
  ∀ field ∈ encryptedFields model,
    replacementAccepted inst committed field = true ∧ opens cipher db.currentKey (inst.secrets field) = true

def Passes (cipher : Cipher ν) (db : Database) (model : Model) (committed : Row) (inst : Instance)
    (updateFields : Option (List String)) : Prop :=
  (∀ name ∈ recoveryFields model, writes updateFields name = false) ∨ Accepted cipher db model committed inst

/-- The save passes every check and writes a trust or operational column that is not as committed. -/
structure Resurrects (cipher : Cipher ν) (db : Database) (model : Model) (committed : Row) (inst : Instance)
    (updateFields : Option (List String)) : Prop where
  accepted : Accepted cipher db model committed inst
  unbound : Unbound model updateFields
  differs : ∃ name ∈ protectedFields model,
    writes updateFields name = true ∧ inst.columns name ≠ committed.columns name

/-- A ciphertext changed since the load, and the instance does not hold the new one, nor one that came past the
model's own setter. -/
def Overtaken (model : Model) (pk : Int) (base committed : Row) (edits : List Edit) : Prop :=
  ∃ field ∈ encryptedFields model, base.secrets field ≠ committed.secrets field ∧
    (Instance.edited pk base edits).secrets field ≠ committed.secrets field ∧
    ∀ edit ∈ edits, edit.bypasses field = false

section Committed

variable {pk nextPk : Int} {base committed : Row} {edits : List Edit} {transition : Transition} {inst : Instance}
  {updateFields : Option (List String)} {raised : Database → Failure → Prop}

theorem recoveryFieldsKept_iff {snapshot row : Row} : recoveryFieldsKept model snapshot row = true ↔
    (∀ field ∈ encryptedFields model, row.secrets field = snapshot.secrets field) ∧
      ∀ name ∈ protectedFields model, row.columns name = snapshot.columns name := by
  simp [recoveryFieldsKept]

theorem recoveryFieldsKept_self (row : Row) : recoveryFieldsKept model row row = true :=
  recoveryFieldsKept_iff.mpr ⟨fun _ _ => rfl, fun _ _ => rfl⟩

theorem keepsCommitted_update {f : Int → Row → Row} (hcommitted : (db.tables model).get? pk = some committed)
    (hf : recoveryFieldsKept model committed (f pk committed) = true) :
    KeepsCommitted model pk committed (db.update model f) :=
  ⟨f pk committed, by simp [hcommitted], hf⟩

theorem modelSave_keeps (hcommitted : (db.tables model).get? pk = some committed) (hpk : inst.pk = some pk)
    (hwrites : ∀ name ∈ recoveryFields model, writes updateFields name = false) (hraised : ∀ failure, raised db failure) :
    wp (modelSave env model nextPk inst updateFields) db (fun db' _ => KeepsCommitted model pk committed db') raised := by
  refine wp_modelSave hcommitted hpk (keepsCommitted_update hcommitted ?_) fun _ => hraised _
  rw [if_pos rfl]
  refine recoveryFieldsKept_iff.mpr ⟨fun field hfield => ?_, fun name hname => ?_⟩
  · simp [Instance.onto, hwrites field (List.mem_append_left _ hfield)]
  · simp [Instance.onto, hwrites name (List.mem_append_right _ hname)]

theorem writes_eq_false {fields : List String} (hunrelated : (recoveryFields model).all (· ∉ fields) = true) :
    ∀ name ∈ recoveryFields model, writes (some fields) name = false := by
  intro name hname
  rw [writes_some hname]
  simpa using List.all_eq_true.mp hunrelated name hname

theorem signature_ne (h : recoveryFieldsKept .fastAPIEndpoint base committed = false) :
    backendKeyPersistedSignature env committed ≠ backendKeyPersistedSignature env base := by
  intro hsame
  simp only [backendKeyPersistedSignature, backendConnectionIdentity, Prod.mk.injEq, List.cons_append, List.nil_append,
    List.cons.injEq] at hsame
  refine Bool.false_ne_true (h.symm.trans (recoveryFieldsKept_iff.mpr ⟨fun field hfield => ?_, fun name hname => ?_⟩))
  · obtain rfl : field = "token_enc" := by simpa using (show field ∈ ["token_enc"] from hfield)
    exact hsame.2
  · have hname : name ∈ ["backend_key_target_fingerprint", "enabled"] := hname
    simp only [List.mem_cons, List.not_mem_nil, or_false] at hname
    rcases hname with rfl | rfl <;> simp_all

theorem fastAPIEndpointSave_keeps (hcommitted : (db.tables .fastAPIEndpoint).get? pk = some committed)
    (hpk : inst.pk = some pk) (hloaded : inst.loaded = some base)
    (hchanged : recoveryFieldsKept .fastAPIEndpoint base committed = false) (hraised : ∀ failure, raised db failure) :
    wp (fastAPIEndpointSave env cipher transition nextPk inst updateFields) db
      (fun db' _ => KeepsCommitted .fastAPIEndpoint pk committed db') raised := by
  simp only [fastAPIEndpointSave, wp_bind, wp_raising, wp_ite, wp_read, wp_atomic]
  refine ⟨fun _ _ => ⟨fun hother => ?_, fun _ => ?_⟩, fun _ _ => hraised _⟩
  · refine ⟨fun _ _ => modelSave_keeps hcommitted hpk ?_ hraised, fun _ _ => hraised _⟩
    cases updateFields with
    | none => simp at hother
    | some fields =>
      refine writes_eq_false (List.all_eq_true.mpr fun name hname => ?_)
      have hpersisted : ∀ name ∈ recoveryFields .fastAPIEndpoint, name ∈ backendKeyPersistedFields := by decide
      have hother : updatesBackendKeyState fields = false := by simpa [hpk] using hother
      have hnot := List.any_eq_false.mp hother name
      simp only [decide_not, Bool.not_eq_true', decide_eq_false_iff_not]
      exact fun hmem => hnot hmem (by simp [hpersisted name hname])
  · refine ⟨fun _ _ => ⟨fun _ hkept => ?_, fun _ _ => hraised _⟩, fun _ _ => hraised _⟩
    rw [hpk, Option.bind_some, hcommitted] at hkept
    simp only [loadedSignatureKept, hloaded] at hkept
    exact absurd (ensure_eq_ok.mp hkept) (signature_ne hchanged)

def Instance.prepared (model : Model) (inst : Instance) (committed : Row) (updateFields : Option (List String)) :
    Instance :=
  match model with
  | .proxmoxEndpoint => inst.bound (some committed) updateFields
  | _ => inst

theorem prepared_columns {name : String} (hname : name ∈ protectedFields model) :
    (inst.prepared model committed updateFields).columns name = inst.columns name := by
  unfold Instance.prepared
  split
  · have hother : ∀ name ∈ protectedFields .proxmoxEndpoint, name ∉ boundNames := by decide
    have hnot := hother name hname
    simp only [boundNames, List.mem_cons, List.not_mem_nil, or_false, not_or] at hnot
    cases updateFields <;> simp [Instance.bound, Function.update_of_ne, hnot]
  · rfl

theorem prepared_secrets : (inst.prepared model committed updateFields).secrets = inst.secrets := by
  unfold Instance.prepared
  split <;> rfl

theorem boundAllowed_iff (inst : Instance) (committed : Row) :
    (clusterBindingAllowed inst (some committed) updateFields = .ok () ∧ updateFields.all (bindingField ∉ ·) = true) ↔
      Unbound .proxmoxEndpoint updateFields := by
  cases updateFields with
  | none => simp [clusterBindingAllowed, Unbound, ensure_eq_ok]
  | some fields => simp [clusterBindingAllowed, Unbound, ensure_eq_ok, boundNames, and_assoc]

theorem unresurrected_saved_iff (hcommitted : (db.tables model).get? pk = some committed)
    (hpassed : Passes cipher db model committed inst updateFields) :
    Unresurrected cipher model pk committed inst
        (db.saved model pk (inst.prepared model committed updateFields) updateFields) ↔
      ∀ name ∈ protectedFields model, writes updateFields name = true → inst.columns name = committed.columns name := by
  have hrow : ((db.saved model pk (inst.prepared model committed updateFields) updateFields).tables model).get? pk
      = some ((inst.prepared model committed updateFields).onto updateFields committed) := by
    simp [Database.saved, hcommitted]
  have hcolumns : (∀ name ∈ protectedFields model,
      ((inst.prepared model committed updateFields).onto updateFields committed).columns name = committed.columns name) ↔
      ∀ name ∈ protectedFields model, writes updateFields name = true → inst.columns name = committed.columns name := by
    refine forall₂_congr fun name hname => ?_
    simp only [Instance.onto, prepared_columns hname]
    split_ifs with hwrites <;> simp [hwrites]
  have hsecrets : ∀ field ∈ encryptedFields model,
      ((inst.prepared model committed updateFields).onto updateFields committed).secrets field = committed.secrets field ∨
        inst.setterWritten field = true ∧ opens cipher db.currentKey
          (((inst.prepared model committed updateFields).onto updateFields committed).secrets field) = true := by
    intro field hfield
    simp only [Instance.onto, prepared_secrets]
    split_ifs with hwrites
    · rcases hpassed with hunrelated | haccepted
      · rw [hunrelated field (List.mem_append_left _ hfield)] at hwrites
        cases hwrites
      · obtain ⟨haccepted, hopens⟩ := haccepted field hfield
        simp only [replacementAccepted, Bool.or_eq_true, decide_eq_true_eq] at haccepted
        rcases haccepted with (hsame | hproduced) | hexpected
        · exact .inl hsame
        · exact .inr ⟨by simp [Instance.setterWritten, hproduced], hopens⟩
        · exact .inr ⟨by simp [Instance.setterWritten, hexpected], hopens⟩
    · exact .inl rfl
  constructor
  · rintro ⟨row, hrow', -, hkept⟩
    obtain rfl := Option.some.inj (hrow.symm.trans hrow')
    exact hcolumns.mp hkept
  · exact fun hkept => ⟨_, hrow, hsecrets, hcolumns.mpr hkept⟩

section Others

variable (hmodel : model ≠ .fastAPIEndpoint) (hcommitted : (db.tables model).get? pk = some committed)
  (hpk : inst.pk = some pk) {value : Database → Unit → Prop}

include hmodel hcommitted hpk

theorem wp_originalSave (hvalue : Unbound model updateFields →
      value (db.saved model pk (inst.prepared model committed updateFields) updateFields) ())
    (hraised : (∃ label, env.fails label = true) ∨ ¬ Unbound model updateFields → ∀ failure, raised db failure) :
    wp (originalSave env cipher model transition nextPk inst updateFields) db value raised := by
  unfold originalSave
  split
  · exact absurd rfl hmodel
  · simp only [saveBoundEndpoint, wp_atomic, wp_bind, wp_read, wp_raising, hpk, Option.bind_some, hcommitted]
    refine ⟨fun _ hcluster => ⟨fun _ hbinding => ?_, fun _ hbinding => ?_⟩, fun _ hcluster => ?_⟩
    · exact wp_modelSave hcommitted hpk (hvalue ((boundAllowed_iff inst committed).mp ⟨hcluster, ensure_eq_ok.mp hbinding⟩))
        fun hfails => hraised (.inl ⟨_, hfails⟩) _
    · refine hraised (.inr fun hunbound => ?_) _
      rw [ensure, if_pos ((boundAllowed_iff inst committed).mpr hunbound).2] at hbinding
      cases hbinding
    · refine hraised (.inr fun hunbound => ?_) _
      rw [((boundAllowed_iff inst committed).mpr hunbound).1] at hcluster
      cases hcluster
  · next hother =>
    have hprepared : inst.prepared model committed updateFields = inst := by
      unfold Instance.prepared
      split
      · exact absurd rfl hother
      · rfl
    rw [hprepared] at hvalue
    exact wp_modelSave hcommitted hpk (hvalue fun hproxmox => absurd hproxmox hother)
      fun hfails => hraised (.inl ⟨_, hfails⟩) _

theorem wp_guardedSave (hvalue : Unbound model updateFields → Passes cipher db model committed inst updateFields →
      value (db.saved model pk (inst.prepared model committed updateFields) updateFields) ())
    (hraised : (∃ label, env.fails label = true) ∨ ¬ Unbound model updateFields ∨
      ¬ Accepted cipher db model committed inst → ∀ failure, raised db failure) :
    wp (guardedSave env cipher model transition nextPk inst updateFields) db value raised := by
  have hreplaced : validateEncryptedFieldReplacements model inst (inst.pk.bind (db.tables model).get?) =
      ensure ((encryptedFields model).all (replacementAccepted inst committed)) (.validation "__all__" staleMessage) := by
    rw [hpk, Option.bind_some, hcommitted]
    rfl
  simp only [guardedSave, wp_ite, wp_atomic, wp_bind, wp_read, wp_raising]
  have hsaved {raised : Database → Failure → Prop} (hpassed : Passes cipher db model committed inst updateFields)
      (hraised : (∃ label, env.fails label = true) ∨ ¬ Unbound model updateFields → ∀ failure, raised db failure) :
      wp (originalSave env cipher model transition nextPk inst updateFields) db value raised :=
    wp_originalSave hmodel hcommitted hpk (fun hunbound => hvalue hunbound hpassed) hraised
  have hstatement : (∃ label, env.fails label = true) ∨ ¬ Unbound model updateFields →
      ∀ failure, raised db failure := fun h => hraised (h.imp_right .inl)
  refine ⟨fun hunrelated => ?_, fun _ => wp_statement_of env ⟨fun _ haccepted => ⟨fun _ => ⟨fun _ hopens => ?_,
    fun _ hstale => ?_⟩, fun hskips => ?_⟩, fun _ hstale => ?_⟩ fun hfails => hraised (.inl ⟨_, hfails⟩) _⟩
  · cases updateFields with
    | none => simp at hunrelated
    | some fields => exact hsaved (.inl (writes_eq_false hunrelated)) hstatement
  · rw [hreplaced, ensure_eq_ok] at haccepted
    exact hsaved (.inr fun field hfield => ⟨List.all_eq_true.mp haccepted field hfield,
      List.all_eq_true.mp (ensure_eq_ok.mp hopens) field hfield⟩) hstatement
  · refine hraised (.inr (.inr fun haccepted => ?_)) _
    have hopens := List.all_eq_true.mpr fun field hfield => (haccepted field hfield).2
    rw [validateCiphertextsUseCurrentKey, ensure, if_pos hopens] at hstale
    cases hstale
  · simp [hmodel] at hskips
  · refine hraised (.inr (.inr fun haccepted => ?_)) _
    have hreplaces := List.all_eq_true.mpr fun field hfield => (haccepted field hfield).1
    rw [hreplaced, ensure, if_pos hreplaces] at hstale
    cases hstale

theorem guardedSave_unresurrected (hnot : ¬ Resurrects cipher db model committed inst updateFields) :
    wp (guardedSave env cipher model transition nextPk inst updateFields) db
      (fun db' _ => Unresurrected cipher model pk committed inst db') fun db' _ => db' = db := by
  refine wp_guardedSave hmodel hcommitted hpk (fun hunbound hpassed => ?_) fun _ _ => rfl
  refine (unresurrected_saved_iff hcommitted hpassed).mpr fun name hname hwrites => ?_
  by_contra hdiffers
  rcases hpassed with hunrelated | haccepted
  · rw [hunrelated name (List.mem_append_right _ hname)] at hwrites
    cases hwrites
  · exact hnot ⟨haccepted, hunbound, name, hname, hwrites, hdiffers⟩

theorem guardedSave_resurrects (hsucceeds : ∀ label, env.fails label = false)
    (h : Resurrects cipher db model committed inst updateFields) :
    ¬ wp (guardedSave env cipher model transition nextPk inst updateFields) db
      (fun db' _ => Unresurrected cipher model pk committed inst db') fun db' _ => db' = db := by
  intro hwp
  obtain ⟨_, hrow⟩ := wp_value hwp (wp_guardedSave hmodel hcommitted hpk (fun _ _ => rfl) fun hraised => by
    rcases hraised with ⟨label, hfails⟩ | hbound | hrefused
    · simp [hsucceeds] at hfails
    · exact absurd h.unbound hbound
    · exact absurd h.accepted hrefused)
  obtain ⟨name, hname, hwrites, hdiffers⟩ := h.differs
  exact hdiffers ((unresurrected_saved_iff hcommitted (.inr h.accepted)).mp hrow name hname hwrites)

end Others

theorem not_replacementAccepted {field : String} (hown : OwnSetter base field inst)
    (hchanged : base.secrets field ≠ committed.secrets field)
    (hdiffers : inst.secrets field ≠ committed.secrets field) : replacementAccepted inst committed field = false := by
  have hexpected : inst.expectedWrites.lookup field ≠ some (committed.secrets field) := fun hlookup =>
    hchanged (hown.expected _ hlookup).symm
  simp [replacementAccepted, hdiffers, hown.untagged, hexpected]

theorem not_resurrects_of_overtaken (h : Overtaken model pk base committed edits) :
    ¬ Resurrects cipher db model committed (.edited pk base edits) updateFields := by
  obtain ⟨field, hfield, hchanged, hdiffers, hedits⟩ := h
  intro hresurrects
  have hrefused := not_replacementAccepted (ownSetter_edited pk hedits) hchanged hdiffers
  exact Bool.false_ne_true (hrefused.symm.trans (hresurrects.accepted field hfield).1)

theorem guardedSave_fastAPIEndpoint_keeps (hcommitted : (db.tables .fastAPIEndpoint).get? pk = some committed)
    (hpk : inst.pk = some pk) (hloaded : inst.loaded = some base)
    (hchanged : recoveryFieldsKept .fastAPIEndpoint base committed = false) (hraised : ∀ failure, raised db failure) :
    wp (guardedSave env cipher .fastAPIEndpoint transition nextPk inst updateFields) db
      (fun db' _ => KeepsCommitted .fastAPIEndpoint pk committed db') raised := by
  have hsaved {raised : Database → Failure → Prop} (hraised : ∀ failure, raised db failure) :
      wp (originalSave env cipher .fastAPIEndpoint transition nextPk inst updateFields) db
        (fun db' _ => KeepsCommitted .fastAPIEndpoint pk committed db') raised :=
    fastAPIEndpointSave_keeps hcommitted hpk hloaded hchanged hraised
  simp only [guardedSave, wp_ite, wp_atomic, wp_bind, wp_read, wp_raising]
  refine ⟨fun _ => hsaved hraised, fun _ => wp_statement env ⟨fun _ _ => ?_, fun _ _ => hraised _⟩ (hraised _)⟩
  exact ⟨fun _ => ⟨fun _ _ => hsaved hraised, fun _ _ => hraised _⟩, fun _ => hsaved hraised⟩

theorem apply_keeps {updates : Updates} (row : Row)
    (hsecrets : (updates.secrets.any fun item => item.1 ∈ encryptedFields model) = false)
    (hcolumns : (protectedFields model).all (fun name => name ∉ updates.columns.map Prod.fst) = true) :
    recoveryFieldsKept model row (updates.apply row) = true := by
  refine recoveryFieldsKept_iff.mpr ⟨fun field hfield => ?_, fun name hname => ?_⟩
  · have hnot : field ∉ updates.secrets.map Prod.fst := by
      rintro hmem
      obtain ⟨item, hitem, rfl⟩ := List.mem_map.mp hmem
      exact List.any_eq_false.mp hsecrets item hitem (by simpa using hfield)
    simp [Updates.apply, overwrite, lookup_of_not_mem hnot]
  · have hnot : name ∉ updates.columns.map Prod.fst := by
      simpa using List.all_eq_true.mp hcolumns name hname
    simp [Updates.apply, overwrite, lookup_of_not_mem hnot]

theorem guardedUpdate_keeps {selects : Int → Row → Bool} {snapshots : List (Int × Row)} {updates : Updates}
    (hcommitted : (db.tables model).get? pk = some committed)
    (hsnapshots : ∀ item ∈ snapshots, item.1 = pk → recoveryFieldsKept model item.2 committed = false)
    (hraised : ∀ failure, raised db failure) :
    wp (guardedUpdate env model selects snapshots updates) db
      (fun db' _ => KeepsCommitted model pk committed db') raised := by
  simp only [guardedUpdate, wp_ite, wp_bind, wp_throw, wp_atomic, wp_pure]
  refine ⟨fun _ => hraised _, fun hsecrets => ⟨fun hcolumns => ?_, fun _ => ⟨fun _ => ?_, fun _ => ?_⟩⟩⟩
  · refine wp_statement env (wp_write.mpr (keepsCommitted_update hcommitted ?_)) (hraised _)
    split_ifs
    · exact apply_keeps committed (by simpa using hsecrets) hcolumns
    · exact recoveryFieldsKept_self committed
  · refine wp_statement env ?_ (hraised _)
    -- no round of the loop is about the row any more
    refine wp_forM (fun _ db' => (db'.tables model).get? pk = some committed) hcommitted
      (fun done item rest hitems db' hrow => ?_) fun db' hrow => ⟨committed, hrow, recoveryFieldsKept_self committed⟩
    rw [wp_bind]
    refine wp_statement env (wp_write.mpr ?_) (hraised _)
    have hmem : item ∈ snapshots := hitems ▸ List.mem_append_right _ List.mem_cons_self
    by_cases hpk : pk = item.1
    · simp [hrow, hsnapshots item hmem hpk.symm]
    · simp [hrow, hpk]
  · exact ⟨committed, hcommitted, recoveryFieldsKept_self committed⟩

end Committed

/-- A late save is refused or leaves nothing older than the commit in the row exactly if it does not resurrect,
and an instance the row was committed over does not. A late update is refused or keeps the recovery columns. -/
theorem staleWrite_keepsCommitted (cipher : Cipher ν) (model : Model) (pk : Int) (base committed : Row)
    (hcommitted : (db.tables model).get? pk = some committed) :
    (model ≠ .fastAPIEndpoint → ∀ inst updateFields, inst.pk = some pk → ∀ env transition nextPk,
      (¬ Resurrects cipher db model committed inst updateFields →
        wp (guardedSave env cipher model transition nextPk inst updateFields) db
          (fun db' _ => Unresurrected cipher model pk committed inst db') fun db' _ => db' = db) ∧
      ((∀ label, env.fails label = false) → Resurrects cipher db model committed inst updateFields →
        ¬ wp (guardedSave env cipher model transition nextPk inst updateFields) db
          (fun db' _ => Unresurrected cipher model pk committed inst db') fun db' _ => db' = db)) ∧
    (∀ edits updateFields, Overtaken model pk base committed edits →
      ¬ Resurrects cipher db model committed (.edited pk base edits) updateFields) ∧
    (model = .fastAPIEndpoint → recoveryFieldsKept model base committed = false →
      ∀ edits env transition nextPk updateFields,
        wp (guardedSave env cipher model transition nextPk (.edited pk base edits) updateFields) db
          (fun db' _ => KeepsCommitted model pk committed db') fun db' _ => db' = db) ∧
    ∀ env selects snapshots updates,
      (∀ item ∈ snapshots, item.1 = pk → recoveryFieldsKept model item.2 committed = false) →
      wp (@guardedUpdate ν env model selects snapshots updates) db
        (fun db' _ => KeepsCommitted model pk committed db') fun db' _ => db' = db := by
  refine ⟨fun hmodel inst updateFields hpk env transition nextPk => ⟨?_, ?_⟩, ?_, ?_, ?_⟩
  · exact guardedSave_unresurrected hmodel hcommitted hpk
  · exact guardedSave_resurrects hmodel hcommitted hpk
  · exact fun edits updateFields => not_resurrects_of_overtaken
  · rintro rfl hchanged edits env transition nextPk updateFields
    obtain ⟨hpk, hloaded⟩ := edited_kept pk base edits
    exact guardedSave_fastAPIEndpoint_keeps hcommitted hpk hloaded hchanged fun _ => rfl
  · exact fun env selects snapshots updates hsnapshots => guardedUpdate_keeps hcommitted hsnapshots fun _ => rfl

/-! ### A save that puts the old state back -/

def lostPassword : Row where
  secrets field := if field = "password_enc" then "lost" else ""
  columns name := if name = "enabled" then .flag true else if name = "pushed_credential_fingerprint" then .text "stamp"
    else .null

def lostEndpoint : Database where
  settings := ⟨1, firstKey, fun _ => .null⟩
  tables
    | .proxmoxEndpoint => Dict.ofDefaults [(7, lostPassword)]
    | _ => Dict.ofDefaults []
  installed := false
  events := []

def noTransition : Transition :=
  ⟨false, .ok "", fun _ => .ok (), fun _ => .ok (.blank, ""), ⟨firstKey, by decide +kernel, by decide⟩⟩

def resetEndpoint : Database :=
  runAll Cipher.transparent lostEndpoint [(.calm, .reset ["proxmox_api"] resetConfirmationPhrase)]

def resavedEndpoint : Except Failure Unit × Database :=
  guardedSave .calm Cipher.transparent .proxmoxEndpoint noTransition 8
    (.edited 7 lostPassword [.assign "password_enc" ""]) none resetEndpoint

def Database.column (db : Database) (model : Model) (pk : Int) (name : String) : Option Value :=
  ((db.tables model).get? pk).map (·.columns name)

theorem clearedCredential_resurrects :
    resetEndpoint.column .proxmoxEndpoint 7 "enabled" = some (.flag false) ∧
      resetEndpoint.column .proxmoxEndpoint 7 "pushed_credential_fingerprint" = some (.text "") ∧
      resavedEndpoint.1.isOk = true ∧
      resavedEndpoint.2.column .proxmoxEndpoint 7 "enabled" = some (.flag true) ∧
      resavedEndpoint.2.column .proxmoxEndpoint 7 "pushed_credential_fingerprint" = some (.text "stamp") := by
  decide +kernel

def committedEndpoint : Row := ((resetEndpoint.tables .proxmoxEndpoint).get? 7).get (by decide +kernel)

theorem lostPassword_overtaken : Overtaken .proxmoxEndpoint 7 lostPassword committedEndpoint [] :=
  ⟨"password_enc", by decide, by decide +kernel, by decide +kernel, by simp⟩

/-- The instance as it was loaded is refused, and one with the password cleared is not. -/
theorem unassignedInstance_keepsCommitted :
    wp (guardedSave .calm Cipher.transparent .proxmoxEndpoint noTransition 8 (.edited 7 lostPassword []) none)
      resetEndpoint (fun db' _ => Unresurrected Cipher.transparent .proxmoxEndpoint 7 committedEndpoint
        (.edited 7 lostPassword []) db') fun db' _ => db' = resetEndpoint := by
  obtain ⟨hsave, hovertaken, -⟩ := staleWrite_keepsCommitted Cipher.transparent .proxmoxEndpoint 7 lostPassword
    committedEndpoint (Option.some_get _).symm
  exact (hsave (by decide) _ none rfl .calm noTransition 8).1 (hovertaken [] none lostPassword_overtaken)

end Proxbox.Encryption
