import Proxbox.Backend.EndpointIds
/-!
# The stages of a sync

A sync run walks the enabled endpoints in its scope, one at a time, and for each of them the selected stages in
order. A stage is one or more streams requested from the backend, each with a query that names the endpoint by
the backend's own id. How a stream ends, and whether the deadline of the job has passed, is up to a
`StageBackend`.
-/

namespace Proxbox

open Python

/-! ### Stages and modes -/

/-- The stages of `SyncTypeChoices`. -/
inductive SyncType where
  | devices
  | storage
  | virtualMachines
  | taskHistory
  | virtualMachinesDisks
  | virtualMachinesBackups
  | virtualMachinesSnapshots
  | networkInterfaces
  | vmInterfaces
  | ipAddresses
  | sdn
  | replications
  | backupRoutines
  deriving DecidableEq

def SyncType.path : SyncType → String
  | .devices => "dcim/devices/create"
  | .storage => "virtualization/virtual-machines/storage/create"
  | .virtualMachines => "virtualization/virtual-machines/create"
  | .taskHistory => "virtualization/virtual-machines/task-history/create"
  | .virtualMachinesDisks => "virtualization/virtual-machines/virtual-disks/create"
  | .virtualMachinesBackups => "virtualization/virtual-machines/backups/all/create"
  | .virtualMachinesSnapshots => "virtualization/virtual-machines/snapshots/all/create"
  | .networkInterfaces => "dcim/devices/interfaces/create"
  | .vmInterfaces => "virtualization/virtual-machines/interfaces/create"
  | .ipAddresses => "virtualization/virtual-machines/interfaces/ip-address/create"
  | .sdn => "proxmox/sdn/create"
  | .replications => "proxmox/replication"
  | .backupRoutines => "proxmox/cluster/backup"

/-- `_VM_SCOPED_PATH_TEMPLATES`, by what follows the machine's id. -/
def SyncType.vmScopedTail : SyncType → Option String
  | .virtualMachines => some "/create"
  | .virtualMachinesDisks => some "/virtual-disks/create"
  | .virtualMachinesBackups => some "/backups/create"
  | .virtualMachinesSnapshots => some "/snapshots/create"
  | _ => none

variable (stage : SyncType)

def syncStreamPath : String := rstripOf '/' stage.path ++ "/stream"

variable (vmIds : List String)

def syncStreamPathsForStage : List String :=
  if vmIds.isEmpty then [syncStreamPath stage]
  else match stage.vmScopedTail with
    | none => [syncStreamPath stage]
    | some tail => (vmIds.filter (· ≠ "")).map fun id =>
      rstripOf '/' ("virtualization/virtual-machines/" ++ id ++ tail) ++ "/stream"

def SyncType.skippable : SyncType → Bool
  | .virtualMachinesBackups => true
  | .virtualMachinesSnapshots => true
  | .taskHistory => true
  | .sdn => true
  | _ => false

inductive SyncMode where
  | always
  | bootstrapOnly
  | disabled
  deriving DecidableEq

def SyncMode.value : SyncMode → String
  | .always => "always"
  | .bootstrapOnly => "bootstrap_only"
  | .disabled => "disabled"

inductive SyncResource where
  | vm
  | vmTemplate
  | vmInterface
  | mac
  | ipAddress
  | cluster
  | node
  | storage
  | sdn
  | sdnBgp
  deriving DecidableEq

def SyncResource.name : SyncResource → String
  | .vm => "vm"
  | .vmTemplate => "vm_template"
  | .vmInterface => "vm_interface"
  | .mac => "mac"
  | .ipAddress => "ip_address"
  | .cluster => "cluster"
  | .node => "node"
  | .storage => "storage"
  | .sdn => "sdn"
  | .sdnBgp => "sdn_bgp"

def syncResources : List SyncResource :=
  [.vm, .vmTemplate, .vmInterface, .mac, .ipAddress, .cluster, .node, .storage, .sdn, .sdnBgp]

abbrev SyncModes := SyncResource → SyncMode

variable (modes : SyncModes)

def vmParentDisabled : Bool :=
  modes .vm = .disabled && modes .vmTemplate = .disabled

def cascade (parent own : SyncMode) : SyncMode := if parent = .disabled then .disabled else own

/-- `_effective_resource_mode`, with `SYNC_MODE_HIERARCHY` written out. -/
def effectiveResourceMode (resource : SyncResource) : SyncMode :=
  let vmInterface := if vmParentDisabled modes then .disabled else modes .vmInterface
  match resource with
  | .node => cascade (modes .cluster) (modes .node)
  | .vmInterface => vmInterface
  | .ipAddress => cascade vmInterface (modes .ipAddress)
  | .mac => cascade vmInterface (modes .mac)
  | .sdnBgp => cascade (modes .sdn) (modes .sdnBgp)
  | resource => modes resource

def SyncType.resource : SyncType → Option SyncResource
  | .devices => some .node
  | .networkInterfaces => some .node
  | .storage => some .storage
  | .vmInterfaces => some .vmInterface
  | .ipAddresses => some .ipAddress
  | .sdn => some .sdn
  | _ => none

def resourceSkipReason (stage : SyncType) : Option String :=
  match stage.resource with
  | none => none
  | some resource =>
    if effectiveResourceMode modes resource = .disabled then
      some ("sync_mode_" ++ resource.name ++ "=disabled")
    else none

def stageSkipReason (stage : SyncType) : Option String :=
  match resourceSkipReason modes stage, vmParentDisabled modes, stage with
  | some reason, _, _ => some reason
  | none, true, .virtualMachines => some "sync_mode_vm=disabled and sync_mode_vm_template=disabled"
  | none, true, .virtualMachinesDisks => some "VM and VM template sync modes are disabled"
  | none, true, .virtualMachinesBackups => some "VM and VM template sync modes are disabled"
  | none, true, .virtualMachinesSnapshots => some "VM and VM template sync modes are disabled"
  | none, _, _ => none

/-! ### Queries -/

structure QuerySettings where
  useGuestAgentInterfaceName : Bool
  vmInterfaceSyncStrategy : String
  fetchMaxConcurrency : Nat
  ignoreIpv6LinkLocalAddresses : Bool
  primaryIpPreference : String
  parseDescriptionMetadata : Bool

abbrev Query := Dict String String

def boolText (b : Bool) : String := if b then "true" else "false"

/-- What a run reads and does not change. Overwrite flags and sync modes are those of one endpoint, or of
the plugin without one. -/
structure StageConfig where
  endpoints : EndpointTable
  view : BackendView
  /-- `get_fastapi_request_context(...).http_url` of the backend the run is for. -/
  httpUrl : Option String
  settings : QuerySettings
  overwrites : Option String → List (String × Bool)
  syncModes : Option String → SyncModes

structure SyncParams where
  proxmoxEndpointIds : List String
  netboxEndpointIds : List String
  netboxVmIds : List String
  netboxBranchSchemaId : String
  runId : String

def singleEndpointId : List String → Option String
  | [id] => some id
  | _ => none

variable (cfg : StageConfig) (scope : List String)

def settingsQuery : Query :=
  let base := Dict.ofWrites
    [("use_guest_agent_interface_name", boolText cfg.settings.useGuestAgentInterfaceName),
      ("vm_interface_sync_strategy", cfg.settings.vmInterfaceSyncStrategy),
      ("fetch_max_concurrency", toString cfg.settings.fetchMaxConcurrency),
      ("ignore_ipv6_link_local_addresses", boolText cfg.settings.ignoreIpv6LinkLocalAddresses),
      ("primary_ip_preference", cfg.settings.primaryIpPreference),
      ("parse_description_metadata", boolText cfg.settings.parseDescriptionMetadata)]
  let overwritten := (cfg.overwrites (singleEndpointId scope)).foldl
    (fun query flag => query.set flag.1 (boolText flag.2)) base
  let modes := cfg.syncModes (singleEndpointId scope)
  syncResources.foldl (fun query resource =>
    query.set ("sync_mode_" ++ resource.name) (effectiveResourceMode modes resource).value) overwritten

def buildBaseQueryParams (scope netboxIds : List String) (wire : Option (List String)) : Query :=
  let query := settingsQuery cfg scope
  let ids := wire.getD scope
  let query := if ids.isEmpty then query
    else query.set "proxmox_endpoint_ids" (String.intercalate "," ids)
  if netboxIds.isEmpty then query
  else query.set "netbox_endpoint_ids" (String.intercalate "," netboxIds)

structure NetworkOptions where
  ifaceDisabled : Bool
  ipDisabled : Bool
  macDisabled : Bool
  disableOnVm : Bool

def networkStageOptions (stages : List SyncType) : NetworkOptions :=
  let ifaceDisabled := effectiveResourceMode modes .vmInterface = .disabled
  let dedicated := stages.contains .vmInterfaces || stages.contains .ipAddresses
  { ifaceDisabled := ifaceDisabled
    ipDisabled := effectiveResourceMode modes .ipAddress = .disabled
    macDisabled := effectiveResourceMode modes .mac = .disabled
    disableOnVm := stages.contains .virtualMachines && (dedicated || ifaceDisabled) }

variable (options : NetworkOptions) (runId : String)

def stageWrites : SyncType → List (String × String)
  | .virtualMachinesBackups => [("delete_nonexistent_backup", "true")]
  | .virtualMachinesSnapshots => [("delete_nonexistent_snapshot", "true")]
  | .virtualMachines =>
    [("sync_task_history", "false")] ++
      (if options.disableOnVm then [("sync_vm_network", "false")]
      else (if options.ipDisabled then [("assign_vm_interface_ips", "false")] else []) ++
        (if options.macDisabled then [("sync_vm_interface_macs", "false")] else [])) ++
      (if runId ≠ "" then [("run_id", runId)] else [])
  | .vmInterfaces => if options.macDisabled then [("sync_vm_interface_macs", "false")] else []
  | _ => []

def buildStageQueryParams (query : Query) (stage : SyncType) (vmIds : List String)
    (options : NetworkOptions) (runId : String) : Query :=
  let query := (stageWrites options runId stage).foldl (fun query field => query.set field.1 field.2) query
  if vmIds.isEmpty then query else query.set "netbox_vm_ids" (String.intercalate "," vmIds)

/-! ### The scope of a run -/

def requestedIds (ids : List String) : List String :=
  (ids.map strip).filter fun id => id ≠ "" && (intLiteral id).isSome

variable (table : EndpointTable)

def enabledRows : List ProxmoxEndpoint := table.rows.filter ProxmoxEndpoint.enabled

def enabledRowsIn (pks : List Int) : List ProxmoxEndpoint :=
  (enabledRows table).filter fun endpoint => pks.contains endpoint.pk

/-- A selection of which nothing is readable counts as none, and then every enabled endpoint is in scope. -/
def proxmoxEndpointScopes (ids : List String) : List (List String) :=
  let requested := requestedIds ids
  if requested.isEmpty then (enabledRows table).map fun endpoint => [toString endpoint.pk]
  else
    let found := (enabledRowsIn table (requested.filterMap intLiteral)).map fun endpoint =>
      toString endpoint.pk
    (requested.filter found.contains).map fun id => [id]

def resolveWireEndpointIds (scopes : List (List String)) :
    Except Raised (Except String (Dict String String)) := do
  let pks := (scopes.filterMap List.head?).filter fun pk => strip pk ≠ ""
  if pks.isEmpty then return .ok Dict.empty
  else if cfg.httpUrl.getD "" = "" then
    return .error "FastAPI endpoint not configured; cannot resolve backend endpoint ids"
  else
    let endpoints := enabledRowsIn cfg.endpoints (pks.filterMap intLiteral)
    if endpoints.isEmpty then return .ok Dict.empty
    else match ← resolveBackendEndpointIds cfg.view endpoints with
      | .error text => return .error text
      | .ok mapping =>
        return .ok (Dict.ofWrites (mapping.items.map fun item => (toString item.1, toString item.2)))

def noEndpointScopeReason (requested : List String) : String :=
  if !requested.isEmpty then
    "every Proxmox endpoint selected for this run is disabled or no longer exists, so there was nothing " ++
      "to sync"
  else
    "no enabled Proxmox endpoint exists in NetBox, so there was nothing to sync. Syncing without an " ++
      "endpoint filter is not a fallback: the backend would sync every endpoint it still holds, " ++
      "including ones disabled here"

/-! ### The loop -/

/-- A stream requested from the backend, for the endpoint of a scope. -/
structure StageRequest where
  endpointId : Option String
  stage : SyncType
  streamPath : String
  query : Query

/-- How the execution of a stage ended, after how many requests of its stream. -/
structure StageExecution where
  attempts : Nat
  result : Except String (Json × Json)

/-- The outside of a run. Each answer may depend on the requests before it. -/
structure StageBackend where
  execute : List StageRequest → StageRequest → StageExecution
  deadlineReached : List StageRequest → Nat → Bool

inductive StageRecord where
  | skipped (stage : SyncType) (endpointId : Option String) (reason : String)
  | failed (endpointId : Option String) (streamPath : Option String) (stage : Option SyncType)
      (error : String)
  | ran (stage : SyncType) (endpointId : Option String) (streamPath : String) (path ok : Json)

structure StageLog where
  records : List StageRecord
  sent : List StageRequest

def StageLog.record (log : StageLog) (records : List StageRecord) : StageLog :=
  { log with records := log.records ++ records }

def StageLog.send (log : StageLog) (requests : List StageRequest) : StageLog :=
  { log with sent := log.sent ++ requests }

def optionalStageCanSkip (cause : String) : Bool :=
  stage.skippable && !contains "Job deadline reached" cause

/-- The streams of one stage. The flag says that the endpoint failed. -/
def runPaths (backend : StageBackend) (endpointId : Option String) (stage : SyncType) (query : Query) :
    List String → StageLog → StageLog × Bool
  | [], log => (log, false)
  | path :: rest, log =>
    let request := ⟨endpointId, stage, path, query⟩
    let execution := backend.execute log.sent request
    let log := log.send (List.replicate execution.attempts request)
    match execution.result with
    | .error cause =>
      if optionalStageCanSkip stage cause then runPaths backend endpointId stage query rest log
      else (log.record [.failed endpointId (some path) (some stage) cause], true)
    | .ok (replyPath, ok) =>
      runPaths backend endpointId stage query rest
        (log.record [.ran stage endpointId path replyPath ok])

/-- The stages of one endpoint, up to a required one that fails. -/
def runStages (backend : StageBackend) (endpointId : Option String) (modes : SyncModes)
    (query : SyncType → Query) (vmIds : List String) : List SyncType → StageLog → StageLog
  | [], log => log
  | stage :: rest, log =>
    match stageSkipReason modes stage with
    | some reason =>
      runStages backend endpointId modes query vmIds rest
        (log.record [.skipped stage endpointId reason])
    | none =>
      match runPaths backend endpointId stage (query stage) (syncStreamPathsForStage stage vmIds) log with
      | (log, true) => log
      | (log, false) => runStages backend endpointId modes query vmIds rest log

def unresolvedRecords (endpointId : String) (stages : List SyncType)
    (resolveError : Option String) : List StageRecord :=
  if stages.all fun stage => (stageSkipReason modes stage).isSome then
    stages.eraseDups.filterMap fun stage =>
      (stageSkipReason modes stage).map (StageRecord.skipped stage (some endpointId))
  else [.failed (some endpointId) none none ((resolveError.filter (· ≠ "")).getD
    ("Proxmox endpoint " ++ endpointId ++ " could not be resolved to a current ProxBox backend endpoint " ++
      "(not registered, or the backend's stored copy points at a different host or port); skipping to " ++
      "avoid syncing the wrong endpoint"))]

def stageQuery (params : SyncParams) (stages : List SyncType) (scope : List String)
    (wire : Option (List String)) (stage : SyncType) : Query :=
  let base := buildBaseQueryParams cfg scope params.netboxEndpointIds wire
  let base := if params.netboxBranchSchemaId = "" then base
    else base.set "netbox_branch_schema_id" params.netboxBranchSchemaId
  let modes := cfg.syncModes (singleEndpointId scope)
  buildStageQueryParams base stage (params.netboxVmIds.filter (· ≠ "")) (networkStageOptions modes stages)
    (strip params.runId)

def scopeStages (backend : StageBackend) (params : SyncParams)
    (stages : List SyncType) (scope : List String) (wire : Option (List String)) (log : StageLog) :
    StageLog :=
  runStages backend scope.head? (cfg.syncModes (singleEndpointId scope))
    (stageQuery cfg params stages scope wire) (params.netboxVmIds.filter (· ≠ "")) stages log

/-- One scope of the loop. An endpoint the backend does not know is recorded and passed over. -/
def runScope (backend : StageBackend) (params : SyncParams) (stages : List SyncType)
    (wireIds : Except String (Dict String String)) (scope : List String) (log : StageLog) : StageLog :=
  match scope with
  | [] => scopeStages cfg backend params stages scope none log
  | endpointId :: _ =>
    let (found, resolveError) := match wireIds with
      | .error text => (none, some text)
      | .ok ids => (ids.get? endpointId, none)
    match found with
    | none =>
      log.record (unresolvedRecords (cfg.syncModes (some endpointId)) endpointId stages resolveError)
    | some backendId => scopeStages cfg backend params stages scope (some [backendId]) log

def deadlineRecord : StageRecord :=
  .failed scope.head? none none
    "Job deadline reached; no time remains before the persistence reserve."

def runScopes (cfg : StageConfig) (backend : StageBackend) (params : SyncParams) (stages : List SyncType)
    (wireIds : Except String (Dict String String)) : List (List String) → Nat → StageLog → StageLog
  | [], _, log => log
  | scope :: rest, index, log =>
    if backend.deadlineReached log.sent index then log.record ((scope :: rest).map deadlineRecord)
    else runScopes cfg backend params stages wireIds rest (index + 1)
      (runScope cfg backend params stages wireIds scope log)

def runAllStagesSync (backend : StageBackend) (params : SyncParams)
    (stages : List SyncType) : Except Raised StageLog := do
  let scopes := proxmoxEndpointScopes cfg.endpoints params.proxmoxEndpointIds
  if scopes.isEmpty then
    return ⟨[.failed none none none (noEndpointScopeReason params.proxmoxEndpointIds)], []⟩
  else
    let wireIds ← resolveWireEndpointIds cfg scopes
    return runScopes cfg backend params stages wireIds scopes 0 ⟨[], []⟩

/-! ### The endpoint of a request -/

theorem endpointIds_not_mem_stageWrites (stage : SyncType) :
    "proxmox_endpoint_ids" ∉ (stageWrites options runId stage).map Prod.fst := by
  obtain ⟨ifaceDisabled, ipDisabled, macDisabled, disableOnVm⟩ := options
  cases stage with
  | virtualMachines =>
    unfold stageWrites
    cases disableOnVm <;> cases ipDisabled <;> cases macDisabled <;> by_cases hrun : runId = "" <;>
      simp [hrun]
  | vmInterfaces => cases macDisabled <;> simp [stageWrites]
  | _ => simp [stageWrites]

theorem get?_stageQuery (params : SyncParams) (stages : List SyncType)
    (scope : List String) (backendId : String) (stage : SyncType) :
    (stageQuery cfg params stages scope (some [backendId]) stage).get? "proxmox_endpoint_ids"
      = some backendId := by
  have hbase : (buildBaseQueryParams cfg scope params.netboxEndpointIds (some [backendId])).get?
      "proxmox_endpoint_ids" = some backendId := by
    unfold buildBaseQueryParams
    dsimp only [Option.getD_some]
    split_ifs <;> simp_all [String.intercalate_singleton]
  unfold stageQuery buildStageQueryParams
  dsimp only
  have hstage := endpointIds_not_mem_stageWrites
    (networkStageOptions (cfg.syncModes (singleEndpointId scope)) stages) (strip params.runId) stage
  split_ifs <;> simp [Dict.get?_foldl_set_of_not_mem _ hstage, hbase]

section Requests

variable {P : StageRequest → Prop} {endpointId : Option String}

theorem runPaths_forall {stage : SyncType} {query : Query} {log : StageLog} (paths : List String)
    (backend : StageBackend) (hlog : ∀ request ∈ log.sent, P request)
    (hstep : ∀ path, P ⟨endpointId, stage, path, query⟩) :
    ∀ request ∈ (runPaths backend endpointId stage query paths log).1.sent, P request := by
  induction paths generalizing log with
  | nil => exact hlog
  | cons path rest ih =>
    unfold runPaths
    dsimp only
    have hsent : ∀ request ∈ (log.send (List.replicate
        (backend.execute log.sent ⟨endpointId, stage, path, query⟩).attempts
        ⟨endpointId, stage, path, query⟩)).sent, P request := by
      intro request hmem
      rcases List.mem_append.1 hmem with hold | hnew
      · exact hlog request hold
      · rw [List.eq_of_mem_replicate hnew]
        exact hstep path
    split
    · split_ifs
      · exact ih hsent
      · exact hsent
    · exact ih hsent

theorem runStages_forall {modes : SyncModes} {query : SyncType → Query} {vmIds : List String}
    {stages : List SyncType} {log : StageLog} (backend : StageBackend) (hlog : ∀ request ∈ log.sent, P request)
    (hstep : ∀ stage path, P ⟨endpointId, stage, path, query stage⟩) :
    ∀ request ∈ (runStages backend endpointId modes query vmIds stages log).sent, P request := by
  induction stages generalizing log with
  | nil => exact hlog
  | cons stage rest ih =>
    have hpaths := runPaths_forall (syncStreamPathsForStage stage vmIds) backend hlog (hstep stage)
    unfold runStages
    split
    · exact ih hlog
    · split
      · rename_i hrun
        rw [hrun] at hpaths
        exact hpaths
      · rename_i hrun
        rw [hrun] at hpaths
        exact ih hpaths

end Requests

/-- The request is for an enabled endpoint, under the id the backend's listing gives it. -/
def StageRequest.Resolved (request : StageRequest) : Prop :=
  ∃ endpoint ∈ cfg.endpoints.rows, endpoint.enabled = true ∧
    request.endpointId = some (toString endpoint.pk) ∧
    ∃ id, listedId cfg.view endpoint = some id ∧
      request.query.get? "proxmox_endpoint_ids" = some (toString id)

theorem listedId_of_resolveWireEndpointIds {cfg : StageConfig} {scopes : List (List String)}
    {ids : Dict String String} {key wire : String}
    (h : resolveWireEndpointIds cfg scopes = .ok (.ok ids)) (hget : ids.get? key = some wire) :
    ∃ endpoint ∈ cfg.endpoints.rows, endpoint.enabled = true ∧ toString endpoint.pk = key ∧
      ∃ id, listedId cfg.view endpoint = some id ∧ toString id = wire := by
  unfold resolveWireEndpointIds at h
  dsimp only at h
  split_ifs at h
  · obtain rfl := Except.ok.inj (Except.ok.inj h)
    cases hget
  · cases h
  · obtain rfl := Except.ok.inj (Except.ok.inj h)
    cases hget
  · obtain ⟨resolved, hresolved, h⟩ := bind_eq_ok.1 h
    cases resolved with
    | error text => cases h
    | ok mapping =>
      obtain rfl := Except.ok.inj (Except.ok.inj h)
      obtain ⟨⟨pk, id⟩, hitem, heq⟩ := List.mem_map.1 (Dict.mem_of_get?_ofWrites hget)
      obtain ⟨hkey, hwire⟩ := Prod.mk.inj heq
      obtain ⟨endpoint, hendpoint, henabled, rfl, hlisted⟩ :=
        listedId_of_resolveBackendEndpointIds hresolved ((mapping.mem_items_iff_get? pk id).1 hitem)
      have hrow : endpoint ∈ cfg.endpoints.rows :=
        List.mem_of_mem_filter (List.mem_of_mem_filter hendpoint)
      exact ⟨endpoint, hrow, henabled, hkey, id, hlisted, hwire⟩

theorem ne_nil_of_mem_proxmoxEndpointScopes {table : EndpointTable} {ids scope : List String}
    (h : scope ∈ proxmoxEndpointScopes table ids) : scope ≠ [] := by
  unfold proxmoxEndpointScopes at h
  dsimp only at h
  split_ifs at h
  · obtain ⟨endpoint, -, rfl⟩ := List.mem_map.1 h
    exact List.cons_ne_nil _ _
  · obtain ⟨id, -, rfl⟩ := List.mem_map.1 h
    exact List.cons_ne_nil _ _

variable {params : SyncParams} {wireIds : Except String (Dict String String)} {log : StageLog}

theorem runScope_resolved {cfg : StageConfig} {stages : List SyncType}
    {scopes : List (List String)} {scope : List String} (backend : StageBackend)
      (hwire : resolveWireEndpointIds cfg scopes = .ok wireIds)
    (hscope : scope ≠ []) (hlog : ∀ request ∈ log.sent, request.Resolved cfg) :
    ∀ request ∈ (runScope cfg backend params stages wireIds scope log).sent, request.Resolved cfg := by
  obtain ⟨endpointId, rest, rfl⟩ := List.exists_cons_of_ne_nil hscope
  cases wireIds with
  | error text => exact hlog
  | ok ids =>
    unfold runScope
    dsimp only
    cases hfound : ids.get? endpointId with
    | none => exact hlog
    | some backendId =>
      obtain ⟨endpoint, hrow, henabled, hkey, id, hlisted, rfl⟩ :=
        listedId_of_resolveWireEndpointIds hwire hfound
      refine runStages_forall backend hlog fun stage path => ?_
      refine ⟨endpoint, hrow, henabled, ?_, id, hlisted, get?_stageQuery _ _ _ _ _ _⟩
      rw [hkey]
      rfl

theorem runScopes_forall {P : StageRequest → Prop} {cfg : StageConfig} {stages : List SyncType} (backend : StageBackend)
    {rest : List (List String)} {index : Nat}
    (hscope : ∀ scope ∈ rest, ∀ log : StageLog, (∀ request ∈ log.sent, P request) →
      ∀ request ∈ (runScope cfg backend params stages wireIds scope log).sent, P request)
    (hlog : ∀ request ∈ log.sent, P request) :
    ∀ request ∈ (runScopes cfg backend params stages wireIds rest index log).sent, P request := by
  induction rest generalizing index log with
  | nil => exact hlog
  | cons scope rest ih =>
    obtain ⟨hfirst, hrest⟩ := List.forall_mem_cons.1 hscope
    unfold runScopes
    split_ifs
    · exact hlog
    · exact ih hrest (hfirst log hlog)

theorem runAllStagesSync_resolved {cfg : StageConfig} {backend : StageBackend} {stages : List SyncType}
    (h : runAllStagesSync cfg backend params stages = .ok log) :
    ∀ request ∈ log.sent, request.Resolved cfg := by
  unfold runAllStagesSync at h
  dsimp only at h
  split_ifs at h
  · obtain rfl := Except.ok.inj h
    exact fun request hmem => absurd hmem List.not_mem_nil
  · obtain ⟨wireIds, hwire, h⟩ := bind_eq_ok.1 h
    obtain rfl := Except.ok.inj h
    refine runScopes_forall backend (fun scope hscope log hlog => ?_) fun request hmem => absurd hmem List.not_mem_nil
    exact runScope_resolved backend hwire (ne_nil_of_mem_proxmoxEndpointScopes hscope) hlog

end Proxbox
