import Proxbox.Schedule.SyncForm
/-!
# Editing a schedule

A stored schedule is edited in a form that is filled in from its job. Posted unchanged, the form makes a new
job. What the form cannot hold is lost on the way: an interval between two units, an endpoint that is not
offered any more, selected machines or objects. A selection of which nothing is left is an open one.
-/

namespace Proxbox

open Python

/-! ### Stored jobs -/

structure StoredJob where
  name : String
  name_fits : name.length ≤ 200
  queueName : Option String
  scheduled : Option Nat
  interval : Option Nat
  /-- The parameters in the `proxbox_sync` block of `data`. -/
  block : Option StoredParams

def isTargetedName (isNumeral : Char → Bool) (text : List Char) : Bool :=
  let lead := "Proxbox Sync: Virtual machine ".toList
  let digits := text.drop lead.length
  lead.isPrefixOf text && !digits.isEmpty && digits.all isNumeral

def targetedVmId (name : String) : Option String :=
  let cs := (strip name).toList
  if isTargetedName isDecimal cs then some (String.ofList (cs.drop "Proxbox Sync: Virtual machine ".length)) else none

def legacyProxboxRqQueue : String := "netbox_proxbox.sync"

/-- `is_proxbox_sync_job` of a row, told if its data have the block of a sync. -/
def isSyncRow (hasBlock : Bool) (queueName : Option String) (name : String) : Bool :=
  hasBlock || queueName.getD "" == legacyProxboxRqQueue ||
    (strip name == proxboxSyncJobName && ["", "default", legacyProxboxRqQueue].contains (queueName.getD "")) ||
    isTargetedName isDecimal (strip name).toList

def isProxboxSyncJob (job : StoredJob) : Bool := isSyncRow job.block.isSome job.queueName job.name

structure SyncJob extends StoredJob where
  isSync : isProxboxSyncJob toStoredJob = true

def inferTargetedVmJobParams (job : StoredJob) : Option SyncJobParams :=
  (targetedVmId job.name).map fun vmId =>
    { syncTypes := ["virtual-machines", "vm-backups", "vm-snapshots"]
      proxmoxEndpointIds := []
      netboxEndpointIds := []
      netboxVmIds := [vmId]
      batchObjectType := none
      batchObjectIds := []
      fastapiEndpointId := none }

def noParams : StoredParams :=
  { syncTypes := [], proxmoxEndpointIds := [], netboxEndpointIds := [], netboxVmIds := [], batchObjectType := none
    batchObjectIds := [], fastapiEndpointId := none, syncType := none }

/-- The trim of `str_strip_whitespace`, with its own class of blanks. It keeps a text without any. -/
structure Trim where
  apply : String → String
  plain : ∀ text, (∀ c ∈ text.toList, isSpace c = false) → apply text = text

variable (trim : Trim)

def storedSyncTypes (stored : StoredParams) : SyncSelection :=
  if !stored.syncTypes.isEmpty then normalizeSyncTypes (stored.syncTypes.map trim.apply)
  else match stored.syncType with
    | some slug => if slug = "" then .all else normalizeSyncTypes [slug]
    | none => .all

/-- `proxbox_sync_params_from_job`. The texts of the block are trimmed when it is read. -/
def proxboxSyncParamsFromJob (job : StoredJob) : SyncJobParams :=
  let stored := job.block.getD noParams
  let params : SyncJobParams :=
    { syncTypes := (storedSyncTypes trim stored).slugs
      proxmoxEndpointIds := stored.proxmoxEndpointIds.map trim.apply
      netboxEndpointIds := stored.netboxEndpointIds.map trim.apply
      netboxVmIds := stored.netboxVmIds.map trim.apply
      batchObjectType := stored.batchObjectType.map trim.apply
      batchObjectIds := stored.batchObjectIds.map trim.apply
      fastapiEndpointId := stored.fastapiEndpointId }
  if params.syncTypes = ["all"] ∧ params.netboxVmIds = [] then
    match inferTargetedVmJobParams job with
    | some inferred => { inferred with fastapiEndpointId := params.fastapiEndpointId }
    | none => params
  else params

/-! ### The form of a stored job -/

structure ScheduleInitial where
  jobName : Option String
  syncTypes : Option (List String)
  proxmoxEndpoints : Option (List Int)
  netboxEndpoints : Option (List Int)
  scheduleAt : Option Nat
  interval : Option (Nat × ScheduleIntervalUnit)

def initialInterval (minutes : Nat) : Nat × ScheduleIntervalUnit :=
  if 60 * 24 * 7 ≤ minutes then (minutes / (60 * 24 * 7), .weeks)
  else if 60 * 24 ≤ minutes then (minutes / (60 * 24), .days)
  else if 60 ≤ minutes then (minutes / 60, .hours)
  else (minutes, .minutes)

def initialRows (offered : List Int) (ids : List String) : Option (Option (List Int)) :=
  if ids.isEmpty then some none else (readPks ids).map fun pks => some (offered.filter pks.contains)

def buildInitialFromJob (tables : ScheduleTables) (job : StoredJob) : Option ScheduleInitial :=
  if !isProxboxSyncJob job then some ⟨none, none, none, none, none, none⟩
  else do
    let params := proxboxSyncParamsFromJob trim job
    let proxmoxEndpoints ← initialRows tables.enabledPks params.proxmoxEndpointIds
    let netboxEndpoints ← initialRows tables.netbox params.netboxEndpointIds
    return {
      jobName := some job.name
      syncTypes := some params.syncTypes
      proxmoxEndpoints
      netboxEndpoints
      scheduleAt := job.scheduled
      interval := (job.interval.filter (0 < ·)).map initialInterval }

def pickerTime (time : Nat) : Nat := time / 1000000 * 1000000

/-- The form as it is shown, posted unchanged. The only NetBox endpoint is selected unless the initial data say
otherwise. -/
def ScheduleInitial.submitted (initial : ScheduleInitial) (tables : ScheduleTables) : ScheduleSyncPost :=
  let sole := if tables.netbox.length = 1 then tables.netbox else []
  { jobName := initial.jobName.getD ""
    syncTypes := syncTypeChoices.filter (initial.syncTypes.getD ["all"]).contains
    proxmoxEndpoints := (tables.enabledPks.filter (initial.proxmoxEndpoints.getD []).contains).map some
    netboxEndpoints := (tables.netbox.filter (initial.netboxEndpoints.getD sole).contains).map some
    scheduleAt := match initial.scheduleAt with
      | none => .blank
      | some time => .value (pickerTime time)
    intervalValue := .value (initial.interval.getD (1, .hours)).1
    intervalUnit := .value (initial.interval.getD (1, .hours)).2 }

/-- The job that replaces a stored one after its form was opened and posted unchanged. -/
def editUnchanged (tables : ScheduleTables) (now : Nat) (job : StoredJob) : Option EnqueuedSyncJob := do
  let initial ← buildInitialFromJob trim tables job
  let cleaned ← ((initial.submitted tables).cleaned tables now).toOption
  enqueueProxboxSyncFromValidForm tables cleaned

/-! ### What a job syncs -/

structure SyncScope where
  proxmox : List Int
  netbox : List Int
  machines : List String
  batch : Option (String × List String)
  deriving DecidableEq

def batchSelection (params : SyncJobParams) : Option (String × List String) :=
  (params.batchObjectType.filter fun type => type ≠ "" ∧ params.batchObjectIds ≠ []).map fun type =>
    (type, params.batchObjectIds)

variable (pks : List Int)

def netboxEndpointsIn (ids : List String) : List Int :=
  if ids.isEmpty then pks else pks.filter (ids.filterMap intLiteral).contains

/-- What a job with these parameters syncs as the tables are now. -/
def syncScope (tables : ScheduleTables) (params : SyncJobParams) : SyncScope :=
  { proxmox := enabledEndpointIds tables.proxmox params.proxmoxEndpointIds
    netbox := netboxEndpointsIn tables.netbox params.netboxEndpointIds
    machines := params.netboxVmIds
    batch := batchSelection params }

/-- No selection of the one is open in the other. -/
structure KeepsSelections (old new : SyncJobParams) : Prop where
  proxmox : new.proxmoxEndpointIds = [] → old.proxmoxEndpointIds = []
  netbox : new.netboxEndpointIds = [] → old.netboxEndpointIds = []
  machines : new.netboxVmIds = [] → old.netboxVmIds = []
  batch : batchSelection new = none → batchSelection old = none

/-- The replacement of a job that does what the job does. -/
structure SameSchedule (tables : ScheduleTables) (job : StoredJob) (replacement : EnqueuedSyncJob) : Prop where
  interval : replacement.interval = job.interval
  syncTypes : replacement.params.syncTypes = (proxboxSyncParamsFromJob trim job).syncTypes
  scope : syncScope tables replacement.params.toSyncJobParams = syncScope tables (proxboxSyncParamsFromJob trim job)
  selections : KeepsSelections (proxboxSyncParamsFromJob trim job) replacement.params.toSyncJobParams

/-! ### Sync types -/

section Types

theorem slug_mem_syncTypeChoices (stage : SyncType) : stage.slug ∈ syncTypeChoices := by cases stage <;> decide

theorem mem_syncTypeChoices_of_normal {slugs : List String} (h : NormalTypes slugs) :
    ∀ slug ∈ slugs, slug ∈ syncTypeChoices := by
  cases h with
  | all => decide
  | types _ _ =>
    intro slug hslug
    obtain ⟨stage, -, rfl⟩ := List.mem_map.1 hslug
    exact slug_mem_syncTypeChoices stage

theorem nodup_of_normal {slugs : List String} (h : NormalTypes slugs) : slugs.Nodup := by
  cases h with
  | all => decide
  | types _ hsorted =>
    refine List.Nodup.map (fun _ _ => slug_injective) (hsorted.imp ?_)
    rintro left right hless rfl
    exact Nat.lt_irrefl _ hless

theorem perm_checked {slugs : List String} (h : NormalTypes slugs) : (syncTypeChoices.filter slugs.contains).Perm slugs := by
  have hchoices : syncTypeChoices.Nodup := by decide
  refine (List.perm_ext_iff_of_nodup (hchoices.filter _) (nodup_of_normal h)).2 fun slug => ?_
  rw [List.mem_filter, List.contains_iff_mem]
  exact and_iff_right_of_imp (mem_syncTypeChoices_of_normal h slug)

theorem ne_nil_of_normal {slugs : List String} (h : NormalTypes slugs) : slugs ≠ [] := by
  cases h with
  | all => exact List.cons_ne_nil _ _
  | types hnonempty _ => exact mt List.map_eq_nil_iff.1 hnonempty

theorem eq_all_of_normal {slugs : List String} (h : NormalTypes slugs) (hall : "all" ∈ slugs) : slugs = ["all"] := by
  cases h with
  | all => rfl
  | types _ _ =>
    obtain ⟨stage, -, hslug⟩ := List.mem_map.1 hall
    exact absurd hslug (slug_ne_all stage)

theorem syncTypesField_checked {slugs : List String} (h : NormalTypes slugs) :
    syncTypesField (syncTypeChoices.filter slugs.contains) = .ok (syncTypeChoices.filter slugs.contains) := by
  have hperm := perm_checked h
  have hempty : ¬ (syncTypeChoices.filter slugs.contains).isEmpty = true := by
    rw [List.isEmpty_iff]
    intro hnil
    rw [hnil] at hperm
    exact ne_nil_of_normal h (List.nil_perm.1 hperm)
  have hchoices : ¬ ((syncTypeChoices.filter slugs.contains).any fun value => !syncTypeChoices.contains value) = true := by
    rw [List.any_eq_true]
    rintro ⟨slug, hslug, hother⟩
    have hchoice := (List.mem_filter.1 hslug).1
    simp [hchoice] at hother
  have hmixed : ¬ ((syncTypeChoices.filter slugs.contains).contains "all" &&
      decide (1 < (syncTypeChoices.filter slugs.contains).length)) = true := by
    rw [Bool.and_eq_true, List.contains_iff_mem, decide_eq_true_eq, hperm.mem_iff, hperm.length_eq]
    rintro ⟨hall, hlong⟩
    rw [eq_all_of_normal h hall] at hlong
    exact absurd hlong (by decide)
  rw [syncTypesField, if_neg hempty, if_neg hchoices, cleanSyncTypes, if_neg hempty, if_neg hmixed]

theorem normalizeSyncTypes_checked {slugs : List String} (h : NormalTypes slugs) :
    (normalizeSyncTypes (syncTypeChoices.filter slugs.contains)).slugs = slugs := by
  exact normalizeSyncTypes_of_normal h fun slug => (perm_checked h).mem_iff

end Types

theorem normalTypes_params (job : StoredJob) : NormalTypes (proxboxSyncParamsFromJob trim job).syncTypes := by
  have hstored (stored : StoredParams) : NormalTypes (storedSyncTypes trim stored).slugs := by
    unfold storedSyncTypes
    split_ifs
    · exact normalTypes_normalizeSyncTypes _
    · split
      · split_ifs
        · exact .all
        · exact normalTypes_normalizeSyncTypes _
      · exact .all
  have htargeted : NormalTypes ["virtual-machines", "vm-backups", "vm-snapshots"] :=
    NormalTypes.types (List.cons_ne_nil SyncType.virtualMachines [.virtualMachinesBackups, .virtualMachinesSnapshots])
      (by decide)
  unfold proxboxSyncParamsFromJob
  dsimp only
  split_ifs
  · cases hname : targetedVmId job.name with
    | none =>
      rw [inferTargetedVmJobParams, hname]
      exact hstored _
    | some vmId =>
      rw [inferTargetedVmJobParams, hname]
      exact htargeted
  · exact hstored _

/-! ### Intervals -/

def WholeUnits (minutes : Nat) : Prop :=
  minutes < 60 ∨ (minutes < 60 * 24 ∧ 60 ∣ minutes) ∨ (minutes < 60 * 24 * 7 ∧ 60 * 24 ∣ minutes) ∨ 60 * 24 * 7 ∣ minutes

theorem initialInterval_pos {minutes : Nat} (h : 0 < minutes) : 1 ≤ (initialInterval minutes).1 := by
  unfold initialInterval
  split_ifs <;> dsimp only <;> omega

theorem toMinutes_initialInterval_iff {minutes : Nat} (h : 0 < minutes) :
    toMinutes (initialInterval minutes).1 (initialInterval minutes).2 = minutes ↔ WholeUnits minutes := by
  unfold initialInterval WholeUnits toMinutes
  split_ifs <;> dsimp only [ScheduleIntervalUnit.multiplier] <;> omega

/-! ### Endpoints -/

section Endpoints

variable {offered : List Int} {ids : List String} {tables : ScheduleTables}

theorem intLiteral_toString_of_isKey {pk : Int} (h : IsKey pk) : intLiteral (toString pk) = some pk := by
  obtain ⟨n, rfl⟩ := Int.eq_ofNat_of_zero_le h.1.le
  have hsmall : n < 10 ^ 19 := by
    have hbound : (n : Int) < 2 ^ 63 := h.2
    omega
  have hdigits : (toString n).toList.length ≤ 19 := by
    rw [Nat.toString_eq_repr, Nat.toList_repr]
    exact (Nat.length_toDigits_le_iff (by decide) (by decide)).2 hsmall
  exact (intLiteral_toString n).trans (if_neg (by omega))

theorem filterMap_intLiteral_toString {pks : List Int} (h : ∀ pk ∈ pks, IsKey pk) :
    (pks.map toString).filterMap intLiteral = pks := by
  induction pks with
  | nil => rfl
  | cons pk pks ih =>
    obtain ⟨hpk, hpks⟩ := List.forall_mem_cons.1 h
    rw [List.map_cons, List.filterMap_cons_some (intLiteral_toString_of_isKey hpk), ih hpks]

theorem readPks_toString {pks : List Int} (h : ∀ pk ∈ pks, IsKey pk) : readPks (pks.map toString) = some pks := by
  have hread : ((pks.map toString).all fun id => (intLiteral id).isSome) = true := by
    rw [List.all_map, List.all_eq_true]
    intro pk hpk
    show (intLiteral (toString pk)).isSome = true
    rw [intLiteral_toString_of_isKey (h pk hpk), Option.isSome_some]
  rw [readPks, if_pos hread, filterMap_intLiteral_toString h]

theorem filter_contains_filter (offered chosen : List Int) :
    offered.filter (offered.filter chosen.contains).contains = offered.filter chosen.contains := by
  refine List.filter_congr fun pk hpk => ?_
  rw [Bool.eq_iff_iff, List.contains_iff_mem, List.mem_filter]
  exact and_iff_right hpk

theorem endpointsField_chosen (offered chosen : List Int) :
    endpointsField offered ((offered.filter chosen.contains).map some) = .ok (offered.filter chosen.contains) := by
  have hunread : ¬ ((offered.filter chosen.contains).map some).contains none = true := by simp
  have hchoices : ¬ (((offered.filter chosen.contains).map some).any fun pk => !(offered.map some).contains pk) = true := by
    rw [List.any_eq_true]
    rintro ⟨pk, hpk, hother⟩
    obtain ⟨key, hkey, rfl⟩ := List.mem_map.1 hpk
    have hoffered := (List.mem_filter.1 hkey).1
    simp [hoffered] at hother
  have hsame : (offered.filter fun pk => ((offered.filter chosen.contains).map some).contains (some pk)) =
      offered.filter chosen.contains := by
    rw [← filter_contains_filter offered chosen]
    refine List.filter_congr fun pk _ => ?_
    rw [Bool.eq_iff_iff, List.contains_iff_mem, List.contains_iff_mem, filter_contains_filter]
    simp
  rw [endpointsField, if_neg hunread, if_neg hchoices, hsame]

theorem map_pk_enabledRowsIn :
    (enabledRowsIn tables.proxmox pks).map ProxmoxEndpoint.pk = tables.enabledPks.filter pks.contains := by
  rw [ScheduleTables.enabledPks, List.filter_map]
  rfl

theorem map_toString_enabledRowsIn :
    (enabledRowsIn tables.proxmox pks).map (fun endpoint => toString endpoint.pk) =
      (tables.enabledPks.filter pks.contains).map toString := by
  rw [← map_pk_enabledRowsIn, List.map_map]
  rfl

theorem isKey_enabledPks : ∀ pk ∈ tables.enabledPks, IsKey pk := by
  intro pk hpk
  obtain ⟨endpoint, hendpoint, rfl⟩ := List.mem_map.1 hpk
  exact tables.proxmox_keys endpoint (enabledRows_subset hendpoint)

/-- All texts are integers, so a lookup does not raise. -/
def Readable (ids : List String) : Prop := ∀ id ∈ ids, (intLiteral id).isSome = true

def offeredIn (offered : List Int) (ids : List String) : List Int := offered.filter (ids.filterMap intLiteral).contains

theorem initialRows_of_readable (h : Readable ids) :
    initialRows offered ids = some (if ids.isEmpty then none else some (offeredIn offered ids)) := by
  have hread : (ids.all fun id => (intLiteral id).isSome) = true := List.all_eq_true.2 h
  unfold initialRows
  split_ifs
  · rfl
  · rw [readPks, if_pos hread]
    rfl

theorem initialRows_of_not_readable (h : ¬ Readable ids) : initialRows offered ids = none := by
  have hread : ¬ (ids.all fun id => (intLiteral id).isSome) = true := fun hall => h (List.all_eq_true.1 hall)
  have hids : ¬ ids.isEmpty = true := by
    intro hempty
    rw [List.isEmpty_iff.1 hempty] at hread
    exact hread rfl
  rw [initialRows, if_neg hids, readPks, if_neg hread]
  rfl

end Endpoints

/-! ### The replacement -/

section Replacement

variable {tables : ScheduleTables} {now : Nat} {job : StoredJob}

def shownInterval (job : StoredJob) : Nat × ScheduleIntervalUnit :=
  ((job.interval.filter (0 < ·)).map initialInterval).getD (1, .hours)

def shownNetbox (tables : ScheduleTables) (ids : List String) : List Int :=
  if ids.isEmpty then if tables.netbox.length = 1 then tables.netbox else [] else offeredIn tables.netbox ids

def InTime (now : Nat) (job : StoredJob) : Prop := ∀ time ∈ job.scheduled, now ≤ pickerTime time

def replacementParams (tables : ScheduleTables) (params : SyncJobParams) : SyncJobParams :=
  { syncTypes := params.syncTypes
    proxmoxEndpointIds := (offeredIn tables.enabledPks params.proxmoxEndpointIds).map toString
    netboxEndpointIds := (shownNetbox tables params.netboxEndpointIds).map toString
    netboxVmIds := []
    batchObjectType := none
    batchObjectIds := []
    fastapiEndpointId := none }

theorem shownInterval_pos (job : StoredJob) : 1 ≤ (shownInterval job).1 := by
  unfold shownInterval
  cases hinterval : job.interval.filter (0 < ·) with
  | none => exact le_rfl
  | some minutes => exact initialInterval_pos (by simpa using (Option.filter_eq_some_iff.1 hinterval).2)

theorem intervalValueField_shown (job : StoredJob) :
    intervalValueField (.value ((shownInterval job).1 : Int)) = .ok (some (shownInterval job).1) := by
  have hpos := shownInterval_pos job
  rw [intervalValueField, if_neg (by omega), Int.toNat_natCast]

theorem jobNameField_stored (job : StoredJob) : jobNameField job.name = .ok (strip job.name) := by
  have hlength : (strip job.name).length ≤ job.name.length := by
    rw [strip, String.length_ofList, ← String.length_toList, stripChars]
    exact (rstripChars_initial _).length_le.trans (List.dropWhile_suffix _).length_le
  have hfits := job.name_fits
  rw [jobNameField, if_neg (by omega)]

theorem stringifiedValues_toString : stringifiedValues (pks.map toString) = pks.map toString := by
  refine List.filter_eq_self.2 fun id hid => ?_
  obtain ⟨pk, -, rfl⟩ := List.mem_map.1 hid
  simpa using toString_ne_empty pk

def postedForm (tables : ScheduleTables) (job : StoredJob) : ScheduleSyncPost :=
  let params := proxboxSyncParamsFromJob trim job
  { jobName := job.name
    syncTypes := syncTypeChoices.filter params.syncTypes.contains
    proxmoxEndpoints := (offeredIn tables.enabledPks params.proxmoxEndpointIds).map some
    netboxEndpoints := (shownNetbox tables params.netboxEndpointIds).map some
    scheduleAt := match job.scheduled with
      | none => .blank
      | some time => .value (pickerTime time)
    intervalValue := .value (shownInterval job).1
    intervalUnit := .value (shownInterval job).2 }

theorem filter_offeredIn (offered : List Int) (ids : List String) :
    offered.filter (offeredIn offered ids).contains = offeredIn offered ids := filter_contains_filter _ _

theorem buildInitialFromJob_submitted (tables : ScheduleTables) (hjob : isProxboxSyncJob job = true)
    (hproxmox : Readable (proxboxSyncParamsFromJob trim job).proxmoxEndpointIds)
    (hnetbox : Readable (proxboxSyncParamsFromJob trim job).netboxEndpointIds) :
    ∃ initial, buildInitialFromJob trim tables job = some initial ∧ initial.submitted tables = postedForm trim tables job := by
  unfold buildInitialFromJob
  rw [hjob]
  dsimp only
  rw [initialRows_of_readable hproxmox, initialRows_of_readable hnetbox]
  refine ⟨_, rfl, ?_⟩
  have hrows : tables.enabledPks.filter ((if (proxboxSyncParamsFromJob trim job).proxmoxEndpointIds.isEmpty then none
      else some (offeredIn tables.enabledPks (proxboxSyncParamsFromJob trim job).proxmoxEndpointIds)).getD []).contains =
      offeredIn tables.enabledPks (proxboxSyncParamsFromJob trim job).proxmoxEndpointIds := by
    split_ifs with hempty
    · rw [List.isEmpty_iff.1 hempty]
      rfl
    · exact filter_offeredIn _ _
  have hnetboxRows : tables.netbox.filter ((if (proxboxSyncParamsFromJob trim job).netboxEndpointIds.isEmpty then none
      else some (offeredIn tables.netbox (proxboxSyncParamsFromJob trim job).netboxEndpointIds)).getD
        (if tables.netbox.length = 1 then tables.netbox else [])).contains =
      shownNetbox tables (proxboxSyncParamsFromJob trim job).netboxEndpointIds := by
    unfold shownNetbox
    split_ifs with hempty hsole
    · exact List.filter_eq_self.2 fun pk hpk => List.contains_iff_mem.2 hpk
    · simp
    · exact filter_offeredIn _ _
    · exact filter_offeredIn _ _
  unfold ScheduleInitial.submitted postedForm
  dsimp only
  rw [hrows, hnetboxRows]
  rfl

theorem buildInitialFromJob_eq_none (hjob : isProxboxSyncJob job = true)
    (h : ¬ (Readable (proxboxSyncParamsFromJob trim job).proxmoxEndpointIds ∧
      Readable (proxboxSyncParamsFromJob trim job).netboxEndpointIds)) : buildInitialFromJob trim tables job = none := by
  unfold buildInitialFromJob
  rw [hjob]
  dsimp only
  by_cases hproxmox : Readable (proxboxSyncParamsFromJob trim job).proxmoxEndpointIds
  · have hnetbox : ¬ Readable (proxboxSyncParamsFromJob trim job).netboxEndpointIds := fun hnetbox => h ⟨hproxmox, hnetbox⟩
    rw [initialRows_of_readable hproxmox, initialRows_of_not_readable hnetbox]
    rfl
  · rw [initialRows_of_not_readable hproxmox]
    rfl

theorem exists_filter_shownNetbox (tables : ScheduleTables) (ids : List String) :
    ∃ chosen, shownNetbox tables ids = tables.netbox.filter (List.contains chosen) := by
  unfold shownNetbox
  split_ifs
  · exact ⟨tables.netbox, (List.filter_eq_self.2 fun pk hpk => List.contains_iff_mem.2 hpk).symm⟩
  · exact ⟨[], by simp⟩
  · exact ⟨_, rfl⟩

theorem scheduleAtField_posted (tables : ScheduleTables) (job : StoredJob) :
    scheduleAtField (postedForm trim tables job).scheduleAt = .ok (job.scheduled.map pickerTime) := by
  unfold postedForm
  dsimp only
  cases job.scheduled <;> rfl

theorem scheduleAtInFuture_some {picked : Nat} : scheduleAtInFuture now (some picked) = .ok () ↔ now ≤ picked := by
  rw [scheduleAtInFuture]
  simp

theorem scheduleAtInFuture_iff : scheduleAtInFuture now (job.scheduled.map pickerTime) = .ok () ↔ InTime now job := by
  unfold InTime
  cases job.scheduled with
  | none => exact iff_of_true rfl fun time htime => by cases htime
  | some time =>
    refine scheduleAtInFuture_some.trans ⟨fun h other hother => ?_, fun h => h time rfl⟩
    cases hother
    exact h

theorem cleaned_postedForm (tables : ScheduleTables) (htime : InTime now job) :
    ∃ cleaned, (postedForm trim tables job).cleaned tables now = .ok cleaned ∧
      cleaned.interval = some (toMinutes (shownInterval job).1 (shownInterval job).2) ∧
      cleaned.syncTypes = syncTypeChoices.filter (proxboxSyncParamsFromJob trim job).syncTypes.contains ∧
      cleaned.proxmoxEndpointIds = (offeredIn tables.enabledPks (proxboxSyncParamsFromJob trim job).proxmoxEndpointIds).map
        toString ∧
      cleaned.netboxEndpointIds = (shownNetbox tables (proxboxSyncParamsFromJob trim job).netboxEndpointIds).map toString := by
  obtain ⟨chosen, hchosen⟩ := exists_filter_shownNetbox tables (proxboxSyncParamsFromJob trim job).netboxEndpointIds
  have hproxmox := endpointsField_chosen tables.enabledPks ((proxboxSyncParamsFromJob trim job).proxmoxEndpointIds.filterMap
    intLiteral)
  have hnetbox := endpointsField_chosen tables.netbox chosen
  unfold ScheduleSyncPost.cleaned
  rw [scheduleAtField_posted trim]
  dsimp only [postedForm]
  rw [jobNameField_stored, syncTypesField_checked (normalTypes_params trim job), offeredIn, hproxmox, hchosen, hnetbox,
    intervalValueField_shown]
  dsimp only [bind, Except.bind, intervalUnitField]
  rw [scheduleAtInFuture_iff.2 htime]
  exact ⟨_, rfl, rfl, rfl, rfl, rfl⟩

theorem inTime_of_cleaned {cleaned : ScheduleSyncCleaned} (h : (postedForm trim tables job).cleaned tables now = .ok cleaned) :
    InTime now job := by
  have herrors := ((postedForm trim tables job).errors_eq_nil_iff tables now).2 ⟨cleaned, h⟩
  obtain ⟨-, hwhole⟩ := List.append_eq_nil_iff.1 herrors
  obtain ⟨⟨⟩, hfuture⟩ := fieldErrors_eq_nil_iff.1 hwhole
  rw [scheduleAtField_posted trim] at hfuture
  exact scheduleAtInFuture_iff.1 hfuture

theorem editUnchanged_spec (tables : ScheduleTables) (hjob : isProxboxSyncJob job = true)
    (hproxmox : Readable (proxboxSyncParamsFromJob trim job).proxmoxEndpointIds)
    (hnetbox : Readable (proxboxSyncParamsFromJob trim job).netboxEndpointIds) (htime : InTime now job) :
    ∃ replacement, editUnchanged trim tables now job = some replacement ∧
      replacement.interval = some (toMinutes (shownInterval job).1 (shownInterval job).2) ∧
      replacement.params.toSyncJobParams = replacementParams tables (proxboxSyncParamsFromJob trim job) := by
  obtain ⟨initial, hinitial, hposted⟩ := buildInitialFromJob_submitted trim tables hjob hproxmox hnetbox
  obtain ⟨cleaned, hcleaned, hinterval, htypes, hids, hnetboxIds⟩ := cleaned_postedForm trim tables htime
  have hkeys : ∀ pk ∈ offeredIn tables.enabledPks (proxboxSyncParamsFromJob trim job).proxmoxEndpointIds,
    IsKey pk := fun pk hpk =>
    isKey_enabledPks pk (List.mem_of_mem_filter hpk)
  unfold editUnchanged
  rw [hinitial]
  dsimp only [bind, Option.bind]
  rw [hposted, hcleaned]
  dsimp only [Except.toOption, enqueueProxboxSyncFromValidForm]
  rw [hids, readPks_toString hkeys]
  dsimp only [bind, Option.bind]
  rw [map_toString_enabledRowsIn, filter_offeredIn, htypes, hnetboxIds]
  refine ⟨_, rfl, hinterval, ?_⟩
  unfold enqueueProxboxSyncJob serializeSyncParams enqueuedSyncParams replacementParams
  dsimp only
  rw [normalizeSyncTypes_checked (normalTypes_params trim job), stringifiedValues_toString, stringifiedValues_toString]
  rfl

theorem readable_of_editUnchanged {replacement : EnqueuedSyncJob} (hjob : isProxboxSyncJob job = true)
    (h : editUnchanged trim tables now job = some replacement) :
    Readable (proxboxSyncParamsFromJob trim job).proxmoxEndpointIds ∧
      Readable (proxboxSyncParamsFromJob trim job).netboxEndpointIds ∧
      InTime now job := by
  obtain ⟨initial, hinitial, h⟩ := Option.bind_eq_some_iff.1 h
  obtain ⟨cleaned, hcleaned, -⟩ := Option.bind_eq_some_iff.1 h
  by_cases hread : Readable (proxboxSyncParamsFromJob trim job).proxmoxEndpointIds ∧
      Readable (proxboxSyncParamsFromJob trim job).netboxEndpointIds
  · obtain ⟨initial', hinitial', hposted⟩ := buildInitialFromJob_submitted trim tables hjob hread.1 hread.2
    obtain rfl := Option.some.inj (hinitial.symm.trans hinitial')
    rw [hposted] at hcleaned
    cases hform : (postedForm trim tables job).cleaned tables now with
    | error error =>
      rw [hform] at hcleaned
      cases hcleaned
    | ok cleaned => exact ⟨hread.1, hread.2, inTime_of_cleaned trim hform⟩
  · rw [buildInitialFromJob_eq_none trim hjob hread] at hinitial
    cases hinitial

end Replacement

/-! ### Scopes -/

section Scope

variable {tables : ScheduleTables} {now : Nat} {job : StoredJob} {offered : List Int} {ids : List String}

theorem intLiteral_strip (id : String) : intLiteral (strip id) = intLiteral id := by
  rw [intLiteral, intLiteral, strip, String.toList_ofList, stripChars_stripChars]

theorem coerceEndpointIds_eq (ids : List String) : coerceEndpointIds ids = ids.filterMap intLiteral := by
  refine List.filterMap_congr fun id _ => ?_
  split_ifs with hempty
  · rw [← intLiteral_strip, intLiteral_strip_empty hempty]
  · exact intLiteral_strip id

theorem enabledEndpointIds_eq (tables : ScheduleTables) (ids : List String) :
    enabledEndpointIds tables.proxmox ids = if ids.isEmpty then tables.enabledPks else offeredIn tables.enabledPks ids := by
  unfold enabledEndpointIds
  split_ifs with hempty
  · rfl
  · dsimp only
    rw [coerceEndpointIds_eq]
    split_ifs with hnone
    · rw [offeredIn, List.isEmpty_iff.1 hnone]
      simp
    · exact map_pk_enabledRowsIn _

/-- The selection still names a row, if it names any. -/
def Named (offered : List Int) (ids : List String) : Prop := ids = [] ∨ ∃ pk ∈ offered, ∃ id ∈ ids, intLiteral id = some pk

theorem offeredIn_ne_nil_iff : offeredIn offered ids ≠ [] ↔ ∃ pk ∈ offered, ∃ id ∈ ids, intLiteral id = some pk := by
  rw [offeredIn, ne_eq, List.filter_eq_nil_iff]
  simp

theorem rows_of_posted {chosen : List Int} (hkeys : ∀ pk ∈ offered, IsKey pk)
    (hchosen : offered.filter chosen.contains = chosen) :
    (if (chosen.map toString).isEmpty then offered else offeredIn offered (chosen.map toString)) =
      if chosen = [] then offered else chosen := by
  have hsubset : ∀ pk ∈ chosen, IsKey pk := by
    intro pk hpk
    rw [← hchosen] at hpk
    exact hkeys pk (List.mem_of_mem_filter hpk)
  by_cases hempty : chosen = []
  · rw [hempty]
    rfl
  · rw [if_neg hempty, if_neg (by simpa using hempty), offeredIn, filterMap_intLiteral_toString hsubset, hchosen]

theorem filter_shownNetbox (tables : ScheduleTables) (ids : List String) :
    tables.netbox.filter (shownNetbox tables ids).contains = shownNetbox tables ids := by
  obtain ⟨chosen, hchosen⟩ := exists_filter_shownNetbox tables ids
  rw [hchosen, filter_contains_filter]

theorem syncScope_replacementParams (tables : ScheduleTables) (params : SyncJobParams) :
    syncScope tables (replacementParams tables params) =
      { proxmox := if offeredIn tables.enabledPks params.proxmoxEndpointIds = [] then tables.enabledPks
          else offeredIn tables.enabledPks params.proxmoxEndpointIds
        netbox := if shownNetbox tables params.netboxEndpointIds = [] then tables.netbox
          else shownNetbox tables params.netboxEndpointIds
        machines := []
        batch := none } := by
  unfold syncScope replacementParams
  dsimp only
  rw [enabledEndpointIds_eq, rows_of_posted isKey_enabledPks (filter_offeredIn _ _)]
  have hnetbox := rows_of_posted tables.netbox_keys (filter_shownNetbox tables params.netboxEndpointIds)
  rw [netboxEndpointsIn, ← offeredIn, hnetbox]
  rfl

theorem kept_of_named (h : Named offered ids) :
    (if offeredIn offered ids = [] then offered else offeredIn offered ids) = (if ids.isEmpty then
      offered else offeredIn offered ids) ∧
      (offeredIn offered ids = [] → ids = []) := by
  rcases h with rfl | hnamed
  · simp [offeredIn]
  · have hrows := offeredIn_ne_nil_iff.2 hnamed
    have hids : ids ≠ [] := by
      rintro rfl
      obtain ⟨_, _, _, hid, -⟩ := hnamed
      cases hid
    rw [if_neg hrows, if_neg (by simpa using hids)]
    exact ⟨rfl, fun hnil => absurd hnil hrows⟩

theorem named_of_kept (h : offeredIn offered ids = [] → ids = []) : Named offered ids := by
  by_cases hids : ids = []
  · exact .inl hids
  · exact .inr (offeredIn_ne_nil_iff.1 (mt h hids))

/-- The only NetBox endpoint is all of them, so that the form may select it. -/
theorem netbox_kept_of_named (h : Named tables.netbox ids) :
    (if shownNetbox tables ids = [] then tables.netbox else shownNetbox tables ids) = netboxEndpointsIn tables.netbox ids ∧
      (shownNetbox tables ids = [] → ids = []) := by
  have hkept := kept_of_named h
  by_cases hids : ids = []
  · subst hids
    refine ⟨?_, fun _ => rfl⟩
    unfold shownNetbox netboxEndpointsIn
    by_cases hsole : tables.netbox.length = 1
    · simp [hsole]
    · simp [hsole]
  · have hshown : shownNetbox tables ids = offeredIn tables.netbox ids := if_neg (by simpa using hids)
    rw [hshown]
    exact hkept

end Scope

/-! ### Which schedules survive their form -/

/-- A job that its form can hold. -/
structure Editable (tables : ScheduleTables) (now : Nat) (job : StoredJob) : Prop where
  interval : ∃ minutes, job.interval = some minutes ∧ 0 < minutes ∧ WholeUnits minutes
  inTime : InTime now job
  proxmox : Readable (proxboxSyncParamsFromJob trim job).proxmoxEndpointIds
  proxmoxNamed : Named tables.enabledPks (proxboxSyncParamsFromJob trim job).proxmoxEndpointIds
  netbox : Readable (proxboxSyncParamsFromJob trim job).netboxEndpointIds
  netboxNamed : Named tables.netbox (proxboxSyncParamsFromJob trim job).netboxEndpointIds
  machines : (proxboxSyncParamsFromJob trim job).netboxVmIds = []
  batch : batchSelection (proxboxSyncParamsFromJob trim job) = none

section Faithful

variable {trim} {tables : ScheduleTables} {now : Nat} {job : StoredJob}

theorem shownInterval_iff (job : StoredJob) :
    some (toMinutes (shownInterval job).1 (shownInterval job).2) = job.interval ↔
      ∃ minutes, job.interval = some minutes ∧ 0 < minutes ∧ WholeUnits minutes := by
  unfold shownInterval
  cases hinterval : job.interval with
  | none => simp
  | some minutes =>
    by_cases hpos : 0 < minutes
    · have hfilter : (some minutes).filter (0 < ·) = some minutes := by simp [hpos]
      rw [hfilter, Option.map_some, Option.getD_some, Option.some_inj, toMinutes_initialInterval_iff hpos]
      simp [hpos]
    · obtain rfl : minutes = 0 := by omega
      have hfilter : (some 0).filter (fun minutes : Nat => 0 < minutes) = none := rfl
      rw [hfilter]
      simp [toMinutes, ScheduleIntervalUnit.multiplier]

variable {replacement : EnqueuedSyncJob}

theorem sameSchedule_of_editable (h : Editable trim tables now job)
    (hinterval : replacement.interval = some (toMinutes (shownInterval job).1 (shownInterval job).2))
    (hparams : replacement.params.toSyncJobParams = replacementParams tables (proxboxSyncParamsFromJob trim job)) :
    SameSchedule trim tables job replacement := by
  obtain ⟨hproxmox, hproxmoxKept⟩ := kept_of_named h.proxmoxNamed
  obtain ⟨hnetbox, hnetboxKept⟩ := netbox_kept_of_named h.netboxNamed
  refine ⟨hinterval.trans ((shownInterval_iff job).2 h.interval), ?_, ?_, ?_⟩
  · rw [hparams]
    rfl
  · rw [hparams, syncScope_replacementParams, hproxmox, hnetbox, syncScope, enabledEndpointIds_eq, h.machines, h.batch]
  · rw [hparams]
    refine ⟨fun hnil => ?_, fun hnil => ?_, fun _ => h.machines, fun _ => h.batch⟩
    · exact hproxmoxKept (List.map_eq_nil_iff.1 hnil)
    · exact hnetboxKept (List.map_eq_nil_iff.1 hnil)

theorem editable_of_sameSchedule (htime : InTime now job)
    (hproxmox : Readable (proxboxSyncParamsFromJob trim job).proxmoxEndpointIds)
    (hnetbox : Readable (proxboxSyncParamsFromJob trim job).netboxEndpointIds)
    (hinterval : replacement.interval = some (toMinutes (shownInterval job).1 (shownInterval job).2))
    (hparams : replacement.params.toSyncJobParams = replacementParams tables (proxboxSyncParamsFromJob trim job))
    (h : SameSchedule trim tables job replacement) : Editable trim tables now job := by
  have hselections := h.selections
  rw [hparams] at hselections
  refine ⟨(shownInterval_iff job).1 (hinterval.symm.trans h.interval), htime, hproxmox, ?_, hnetbox, ?_, ?_, ?_⟩
  · exact named_of_kept fun hnil => hselections.proxmox (List.map_eq_nil_iff.2 hnil)
  · refine named_of_kept fun hnil => ?_
    by_contra hids
    have hshown : shownNetbox tables (proxboxSyncParamsFromJob trim job).netboxEndpointIds = [] :=
      (if_neg (by simpa using hids)).trans hnil
    exact hids (hselections.netbox (List.map_eq_nil_iff.2 hshown))
  · exact hselections.machines rfl
  · exact hselections.batch rfl

end Faithful

/-- A schedule survives opening and posting its form exactly if the form can hold it. -/
theorem edit_unchanged_faithful_iff (tables : ScheduleTables) (now : Nat) (job : SyncJob) :
    (∃ replacement, editUnchanged trim tables now job.toStoredJob = some replacement ∧
      SameSchedule trim tables job.toStoredJob replacement) ↔ Editable trim tables now job.toStoredJob := by
  constructor
  · rintro ⟨replacement, hedit, hsame⟩
    obtain ⟨hproxmox, hnetbox, htime⟩ := readable_of_editUnchanged trim job.isSync hedit
    obtain ⟨replacement', hedit', hinterval, hparams⟩ := editUnchanged_spec trim tables job.isSync hproxmox hnetbox htime
    obtain rfl := Option.some.inj (hedit.symm.trans hedit')
    exact editable_of_sameSchedule htime hproxmox hnetbox hinterval hparams hsame
  · intro h
    obtain ⟨replacement, hedit, hinterval, hparams⟩ := editUnchanged_spec trim tables job.isSync h.proxmox h.netbox h.inTime
    exact ⟨replacement, hedit, sameSchedule_of_editable h hinterval hparams⟩

/-- The endpoint that was made after `n` others. -/
def endpointAfter (n : Nat) (name : String) (enabled : Bool) : ProxmoxEndpoint where
  pk := n + 1
  pk_pos := Int.succ_ofNat_pos n
  name := name
  enabled := enabled
  allowWrites := false
  domain := none
  ipAddress := none
  port := 8006

def labAndEdge : EndpointTable where
  rows := [endpointAfter 0 "lab" true, endpointAfter 1 "edge" false]
  pk_nodup := by decide

theorem isKey_labAndEdge : ∀ endpoint ∈ labAndEdge.rows, IsKey endpoint.pk := by
  simp [labAndEdge, endpointAfter, IsKey]

theorem isKey_one : ∀ pk ∈ [(1 : Int)], IsKey pk := by simp [IsKey]

def secondDisabled : ScheduleTables where
  proxmox := labAndEdge
  proxmox_keys := isKey_labAndEdge
  netbox := [1]
  netbox_keys := isKey_one

def everyNinetyMinutes : SyncJob :=
  { name := "Proxbox Sync"
    name_fits := by decide
    queueName := some "default"
    scheduled := none
    interval := some 90
    block := some { noParams with syncTypes := ["all"], proxmoxEndpointIds := ["2"] }
    isSync := by decide }

def stripTrim : Trim := ⟨strip, fun _ h => strip_of_forall_not_isSpace h⟩

/-- The sync of an endpoint that was disabled becomes an hourly one of every enabled endpoint. -/
theorem edited_schedule_widens :
    (∃ replacement, editUnchanged stripTrim secondDisabled 0 everyNinetyMinutes.toStoredJob = some replacement ∧
      replacement.interval = some 60 ∧ (syncScope secondDisabled replacement.params.toSyncJobParams).proxmox = [1] ∧
      ¬ SameSchedule stripTrim secondDisabled everyNinetyMinutes.toStoredJob replacement) ∧
    (syncScope secondDisabled (proxboxSyncParamsFromJob stripTrim everyNinetyMinutes.toStoredJob)).proxmox = [] := by
  have hedit : (editUnchanged stripTrim secondDisabled 0 everyNinetyMinutes.toStoredJob).map (fun replacement =>
      (replacement.interval, (syncScope secondDisabled replacement.params.toSyncJobParams).proxmox)) =
        some (some 60, [1]) := by
    decide +kernel
  obtain ⟨replacement, hreplacement, hpair⟩ := Option.map_eq_some_iff.1 hedit
  obtain ⟨hinterval, hproxmox⟩ := Prod.mk.inj hpair
  refine ⟨⟨replacement, hreplacement, hinterval, hproxmox, fun hsame => ?_⟩, by decide +kernel⟩
  have hother : everyNinetyMinutes.toStoredJob.interval = some 60 := hsame.interval.symm.trans hinterval
  revert hother
  decide +kernel

end Proxbox
