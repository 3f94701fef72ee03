import Proxbox.Sync.EndpointScope
import Proxbox.Sync.StageOrder
/-!
# The form of a sync schedule

A schedule is made from a form: the sync types, the endpoints, a time and an interval in some unit. The form is
cleaned field by field and then as a whole, and a valid one is enqueued as a job whose parameters are kept with
the job.
-/

namespace Proxbox

open Python

/-! ### Intervals -/

inductive ScheduleIntervalUnit where
  | minutes
  | hours
  | days
  | weeks
  deriving DecidableEq

def ScheduleIntervalUnit.multiplier : ScheduleIntervalUnit → Nat
  | .minutes => 1
  | .hours => 60
  | .days => 60 * 24
  | .weeks => 60 * 24 * 7

def toMinutes (value : Nat) (unit : ScheduleIntervalUnit) : Nat := value * unit.multiplier

/-! ### The stored rows a form offers -/

def IsKey (pk : Int) : Prop := 0 < pk ∧ pk < 2 ^ 63

structure ScheduleTables where
  proxmox : EndpointTable
  proxmox_keys : ∀ endpoint ∈ proxmox.rows, IsKey endpoint.pk
  /-- The primary keys of the NetBox endpoints. -/
  netbox : List Int
  netbox_keys : ∀ pk ∈ netbox, IsKey pk

variable (tables : ScheduleTables)

def ScheduleTables.enabledPks : List Int := (enabledRows tables.proxmox).map ProxmoxEndpoint.pk

/-! ### Fields -/

/-- What a posted field holds, as the field reads its text. -/
inductive Entry (α : Type) where
  | blank
  | value (entry : α)
  | unreadable

/-- The errors of the form fields, and the texts the form raises itself. -/
inductive FormError where
  | required
  | invalid
  | invalidChoice
  | minValue (least : Int)
  | maxLength (limit : Nat)
  | message (text : String)
  deriving DecidableEq

/-- The posted form. An endpoint is `none` if its text is no primary key; times are in microseconds. -/
structure ScheduleSyncPost where
  jobName : String
  syncTypes : List String
  proxmoxEndpoints : List (Option Int)
  netboxEndpoints : List (Option Int)
  scheduleAt : Entry Nat
  intervalValue : Entry Int
  intervalUnit : Entry ScheduleIntervalUnit

def syncTypeChoices : List String :=
  ["virtual-machines", "storage", "vm-disks", "vm-backups", "vm-snapshots", "devices", "network-interfaces", "vm-interfaces",
    "ip-addresses", "sdn", "backup-routines", "replications", "task-history", "all"]

def cleanSyncTypes (values : List String) : Except FormError (List String) :=
  if values.isEmpty then .error (.message "Select at least one sync type.")
  else if values.contains "all" && decide (1 < values.length) then
    .error (.message "Cannot combine \"All\" with other sync types.")
  else .ok values

def syncTypesField (values : List String) : Except FormError (List String) :=
  if values.isEmpty then .error .required
  else if values.any fun value => !syncTypeChoices.contains value then .error .invalidChoice
  else cleanSyncTypes values

def jobNameField (text : String) : Except FormError String :=
  if 200 < (strip text).length then .error (.maxLength 200) else .ok (strip text)

/-- A multiple choice of rows; the rows come in the order of their table. -/
def endpointsField (offered : List Int) (posted : List (Option Int)) : Except FormError (List Int) :=
  if posted.contains none then .error .invalid
  else if posted.any fun pk => !(offered.map some).contains pk then .error .invalidChoice
  else .ok (offered.filter fun pk => posted.contains (some pk))

def scheduleAtField : Entry Nat → Except FormError (Option Nat)
  | .blank => .ok none
  | .value time => .ok (some time)
  | .unreadable => .error .invalid

def intervalValueField : Entry Int → Except FormError (Option Nat)
  | .blank => .ok none
  | .value value => if value < 1 then .error (.minValue 1) else .ok (some value.toNat)
  | .unreadable => .error .invalid

def intervalUnitField : Entry ScheduleIntervalUnit → Except FormError ScheduleIntervalUnit
  | .blank => .error .required
  | .value unit => .ok unit
  | .unreadable => .error .invalidChoice

/-! ### The form -/

structure ScheduleSyncCleaned where
  jobName : String
  syncTypes : List String
  scheduleAt : Option Nat
  intervalValue : Option Nat
  intervalUnit : ScheduleIntervalUnit
  interval : Option Nat
  proxmoxEndpointIds : List String
  netboxEndpointIds : List String

/-- The check that `clean` makes on the form as a whole. -/
def scheduleAtInFuture (now : Nat) (scheduleAt : Option Nat) : Except FormError Unit :=
  if scheduleAt.any fun time => decide (time < now) then .error (.message "Scheduled time must be in the future.") else .ok ()

def ScheduleSyncPost.cleaned (post : ScheduleSyncPost) (tables : ScheduleTables) (now : Nat) :
    Except FormError ScheduleSyncCleaned := do
  let jobName ← jobNameField post.jobName
  let syncTypes ← syncTypesField post.syncTypes
  let proxmoxEndpoints ← endpointsField tables.enabledPks post.proxmoxEndpoints
  let netboxEndpoints ← endpointsField tables.netbox post.netboxEndpoints
  let scheduleAt ← scheduleAtField post.scheduleAt
  let intervalValue ← intervalValueField post.intervalValue
  let intervalUnit ← intervalUnitField post.intervalUnit
  scheduleAtInFuture now scheduleAt
  let interval := intervalValue.map fun value => toMinutes value intervalUnit
  return {
    jobName, syncTypes, intervalValue, intervalUnit, interval
    scheduleAt := if interval.isSome && scheduleAt.isNone then some now else scheduleAt
    proxmoxEndpointIds := proxmoxEndpoints.map toString
    netboxEndpointIds := netboxEndpoints.map toString }

def fieldErrors {α : Type} (field : String) : Except FormError α → List (String × FormError)
  | .ok _ => []
  | .error error => [(field, error)]

def ScheduleSyncPost.errors (post : ScheduleSyncPost) (tables : ScheduleTables) (now : Nat) : List (String × FormError) :=
  fieldErrors "job_name" (jobNameField post.jobName) ++
    fieldErrors "sync_types" (syncTypesField post.syncTypes) ++
    fieldErrors "proxmox_endpoints" (endpointsField tables.enabledPks post.proxmoxEndpoints) ++
    fieldErrors "netbox_endpoints" (endpointsField tables.netbox post.netboxEndpoints) ++
    fieldErrors "schedule_at" (scheduleAtField post.scheduleAt) ++
    fieldErrors "interval_value" (intervalValueField post.intervalValue) ++
    fieldErrors "interval_unit" (intervalUnitField post.intervalUnit) ++
    fieldErrors "__all__" (scheduleAtInFuture now ((scheduleAtField post.scheduleAt).toOption.bind id))

section Validity

variable {α : Type} {field : String} {result : Except FormError α}

theorem fieldErrors_eq_nil_iff : fieldErrors field result = [] ↔ ∃ value, result = .ok value := by
  cases result with
  | ok value => exact iff_of_true rfl ⟨value, rfl⟩
  | error error =>
    refine iff_of_false (List.cons_ne_nil _ _) ?_
    rintro ⟨value, h⟩
    cases h

theorem exists_bind_ok_iff {β : Type} {next : α → Except FormError β} :
    (∃ value, (result >>= next) = .ok value) ↔ ∃ a, result = .ok a ∧ ∃ value, next a = .ok value := by
  cases result with
  | ok a => simp [bind, Except.bind]
  | error error => simp [bind, Except.bind]

theorem ScheduleSyncPost.errors_eq_nil_iff (post : ScheduleSyncPost) (tables : ScheduleTables) (now : Nat) :
    post.errors tables now = [] ↔ ∃ cleaned, post.cleaned tables now = .ok cleaned := by
  simp only [ScheduleSyncPost.errors, ScheduleSyncPost.cleaned, List.append_eq_nil_iff, fieldErrors_eq_nil_iff,
    exists_bind_ok_iff]
  constructor
  · rintro ⟨⟨⟨⟨⟨⟨⟨⟨name, hname⟩, types, htypes⟩, proxmox, hproxmox⟩, netbox, hnetbox⟩, time, htime⟩, value, hvalue⟩, unit,
      hunit⟩, _, hfuture⟩
    rw [htime] at hfuture
    exact ⟨name, hname, types, htypes, proxmox, hproxmox, netbox, hnetbox, time, htime, value, hvalue, unit, hunit, _,
      hfuture, _, rfl⟩
  · rintro ⟨name, hname, types, htypes, proxmox, hproxmox, netbox, hnetbox, time, htime, value, hvalue, unit, hunit,
      _, hfuture, -⟩
    refine ⟨⟨⟨⟨⟨⟨⟨⟨name, hname⟩, types, htypes⟩, proxmox, hproxmox⟩, netbox, hnetbox⟩, time, htime⟩, value, hvalue⟩, unit,
      hunit⟩, (), ?_⟩
    rw [htime]
    exact hfuture

end Validity

/-! ### Parameters of a job -/

structure SyncJobParams where
  syncTypes : List String
  proxmoxEndpointIds : List String
  netboxEndpointIds : List String
  netboxVmIds : List String
  batchObjectType : Option String
  batchObjectIds : List String
  fastapiEndpointId : Option Int
  deriving DecidableEq

/-- The parameters kept in `Job.data`, with the single type that older readers expect. -/
structure StoredParams extends SyncJobParams where
  syncType : Option String

def serializeSyncParams (params : SyncJobParams) : StoredParams :=
  { params with
    syncType := match params.syncTypes with
      | [slug] => some slug
      | _ => if params.netboxVmIds.isEmpty then some "all" else some "virtual-machines" }

structure EnqueueKwargs extends SyncJobParams where
  name : Option String
  scheduleAt : Option Nat
  interval : Option Nat

structure EnqueuedSyncJob where
  name : String
  scheduleAt : Option Nat
  interval : Option Nat
  params : StoredParams

def enqueuedSyncParams (kwargs : SyncJobParams) (syncTypes : SyncSelection) : SyncJobParams :=
  { kwargs with
    syncTypes := syncTypes.slugs
    proxmoxEndpointIds := stringifiedValues kwargs.proxmoxEndpointIds
    netboxEndpointIds := stringifiedValues kwargs.netboxEndpointIds
    netboxVmIds := stringifiedValues kwargs.netboxVmIds
    batchObjectIds := stringifiedValues kwargs.batchObjectIds }

def proxboxSyncJobName : String := "Proxbox Sync"

def enqueueProxboxSyncJob (kwargs : EnqueueKwargs) : EnqueuedSyncJob :=
  { name := kwargs.name.getD proxboxSyncJobName
    scheduleAt := kwargs.scheduleAt
    interval := kwargs.interval
    params := serializeSyncParams (enqueuedSyncParams kwargs.toSyncJobParams (normalizeSyncTypes kwargs.syncTypes)) }

/-- The keys of a lookup `pk__in=ids`, which raises a `ValueError` at a text that is no integer. -/
def readPks (ids : List String) : Option (List Int) :=
  if ids.all fun id => (intLiteral id).isSome then some (ids.filterMap intLiteral) else none

/-- `enqueue_proxbox_sync_from_valid_form`; `none` if the lookup raises. -/
def enqueueProxboxSyncFromValidForm (cleaned : ScheduleSyncCleaned) : Option EnqueuedSyncJob := do
  let pks ← readPks cleaned.proxmoxEndpointIds
  let proxmoxEndpointIds := (enabledRowsIn tables.proxmox pks).map fun endpoint => toString endpoint.pk
  return enqueueProxboxSyncJob {
    name := if cleaned.jobName = "" then none else some cleaned.jobName
    scheduleAt := cleaned.scheduleAt
    interval := cleaned.interval
    syncTypes := cleaned.syncTypes
    proxmoxEndpointIds
    netboxEndpointIds := cleaned.netboxEndpointIds
    netboxVmIds := []
    batchObjectType := none
    batchObjectIds := []
    fastapiEndpointId := none }

end Proxbox
